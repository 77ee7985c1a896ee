import Flotilla.Battle.Archive
import Flotilla.Text.Basic

/-! # Settings

What a run can be told: where to listen, which files to use, how many battles to
keep. Variables of the environment win over a settings file, unless they are blank. An
address to listen on is a host and a number of 16 bits, with a colon between them; a host
may hold colons itself, so the last colon of the text counts. -/
namespace Flotilla

structure Settings where
  bindAddress : String := "127.0.0.1:3000"
  snapshotPath : String := "data/snapshot.json"
  battleDirectory : Option String := none
  archiveCapacity : Nat := Battle.defaultCapacity
  logFilter : String := "info"
  staticDirectory : Option String := none
  syncToken : Option String := none
deriving DecidableEq, Inhabited

abbrev Environment := List (String × String)

namespace Settings

/-- The value of a variable, unless it is blank. -/
def given? (env : Environment) (name : String) : Option String :=
  (env.lookup name).filter fun v => !Text.blank v

def bindVariable : String := "FLEETVIEW_BIND"

def snapshotVariable : String := "FLEETVIEW_SNAPSHOT"

def logVariable : String := "FLEETVIEW_LOG"

def tokenVariable : String := "FLEETVIEW_SYNC_TOKEN"

/-- The variables that win over a settings file. -/
def overridingVariables : List String :=
  [bindVariable, snapshotVariable, logVariable, tokenVariable]

/-- The settings with the variables of an environment put in. -/
def overridden (s : Settings) (env : Environment) : Settings :=
  { s with
    bindAddress := (given? env bindVariable).getD s.bindAddress
    snapshotPath := (given? env snapshotVariable).getD s.snapshotPath
    logFilter := (given? env logVariable).getD s.logFilter
    syncToken := (given? env tokenVariable).or s.syncToken }

end Settings

namespace Server

structure Address where
  host : List Char
  number : Nat
deriving DecidableEq

inductive AddressError where
  | noColon
  | badNumber
  | badHost
deriving DecidableEq, Repr

def AddressError.message : AddressError → String
  | .noColon => "invalid socket address"
  | .badNumber => "invalid port value"
  | .badHost => "file name contained an unexpected NUL byte"

def Address.ofText (text : List Char) : Except AddressError Address :=
  match text.reverse.span (· != ':') with
  | (_, []) => .error .noColon
  | (number, _ :: host) =>
    match Text.nat16? number.reverse with
    | none => .error .badNumber
    | some n => if host.contains '\x00' then .error .badHost else .ok ⟨host.reverse, n⟩

end Server

end Flotilla
