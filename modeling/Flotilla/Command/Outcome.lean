import Flotilla.Battle.Export
import Flotilla.Battle.Feed
import Flotilla.Command.Basic
import Flotilla.Json.Printer
import Flotilla.Settings.Basic
import Flotilla.Settings.File
import Flotilla.Store.Audit
import Flotilla.Store.Basic

/-! # Running a command

A run takes a command line, the files and the environment, and comes out with an exit
code, two texts and the files as they are then. A run that fails changes no file. -/
namespace Flotilla

open Flotilla.Battle

structure Outcome where
  code : Nat := 0
  output : String := ""
  complaint : String := ""
  files : Files

inductive Failure where
  | usage (cause : UsageError)
  | settings (cause : Settings.LoadError)
  | address (cause : Server.AddressError)
  | notListening
  | snapshot (cause : Store.SnapshotError)
  | battle (cause : Battle.FileFeedError)
  | notCreated (path : String) (cause : FileError)

namespace Failure

def message : Failure → String
  | .usage cause => cause.message
  | .settings cause => "config error: " ++ cause.message
  | .address cause => "server error: " ++ cause.message
  | .notListening => "server error: listening is not supported"
  | .snapshot cause => "snapshot error: " ++ cause.message
  | .battle cause => "battle error: " ++ cause.message
  | .notCreated path cause => "could not create " ++ path ++ ": " ++ cause.message

def code : Failure → Nat
  | .usage _ => 2
  | _ => 1

end Failure

def asLine (text : String) : String := text ++ "\n"

def Outcome.failed (files : Files) (f : Failure) : Outcome :=
  { code := f.code, complaint := asLine f.message, files }

/-- The outcome of a run that shows a value. -/
def Outcome.shown (files : Files) (v : Json) : Outcome :=
  { output := asLine v.pretty, files }

/-! ## Audits -/

/-- The outcome of an audit: its findings, and whether there are errors among them. -/
def auditOutcome (files : Files) (path : String) (findings : List Store.Finding) : Outcome :=
  let lines := String.join (findings.map fun f => asLine f.line)
  let errors := Store.countOf .error findings
  let warnings := Text.ofNat (Store.countOf .warning findings) ++ " warning(s)"
  if 0 < errors then
    { code := 1
      output := lines
      complaint :=
        asLine ("validation failed: " ++ Text.ofNat errors ++ " error(s), " ++ warnings)
      files }
  else
    { output := lines ++ asLine ("validation passed: " ++ path ++ " (" ++ warnings ++ ")")
      files }

/-! ## Commands -/

def openSnapshot (files : Files) (path : String) : Except Failure Store :=
  (Store.load files path).mapError .snapshot

def openBoth (files : Files) (snapshot battle : String) : Except Failure (Store × Battle) :=
  match openSnapshot files snapshot with
  | .error f => .error f
  | .ok s => ((Battle.load files battle).map fun b => (s, b)).mapError .battle

def exported (files : Files) (rows : List ExportRow) (path : String) : Except Failure Outcome :=
  match files.write path (.text (csvText rows)) with
  | .error e => .error (.notCreated path e)
  | .ok files =>
    .ok {
      output := asLine
        ("export complete: rows=" ++ Text.ofNat rows.length ++ ", path='" ++ path ++ "'")
      files }

def Command.run (settings : Settings) (files : Files) : Command → Except Failure Outcome
  | .serve =>
    match Server.Address.ofText settings.bindAddress.toList with
    | .error e => .error (.address e)
    | .ok _ => .error .notListening
  | .summary snapshot battle asTable =>
    (openBoth files snapshot battle).map fun (s, b) =>
      let summary := summarize s b
      if asTable then { output := summary.tableText, files } else .shown files summary.toJson
  | .phases snapshot battle =>
    (openBoth files snapshot battle).map fun (s, b) =>
      .shown files (Json.ofList AttackTable.toJson (attackTables s b))
  | .csv snapshot battle out =>
    match openBoth files snapshot battle with
    | .error f => .error f
    | .ok (s, b) =>
      let rows := exportRows (attackTables s b)
      match out with
      | some path => exported files rows path
      | none => .ok { output := csvText rows, files }
  | .batch snapshot directory =>
    (openSnapshot files snapshot).map fun s =>
      .shown files (Json.ofList Summary.toJson ((Battle.loadAll files directory).map (summarize s)))
  | .fleet snapshot fleetId =>
    (openSnapshot files snapshot).map fun s =>
      .shown files (Store.formation s.fleets fleetId s.combined).toJson
  | .audit snapshot =>
    (openSnapshot files snapshot).map fun s => auditOutcome files snapshot s.audit

/-- Runs the command that the words of a command line name. The settings are loaded before
the operands are looked at. -/
def runWords (words : List String) (files : Files) (env : Environment) :
    Except Failure Outcome :=
  match words with
  | [] => .error (.usage .noVerb)
  | word :: words =>
    match Verb.ofName? word with
    | none => .error (.usage .noVerb)
    | some verb =>
      match Settings.load files env with
      | .error e => .error (.settings e)
      | .ok settings =>
        match Command.ofWords verb words with
        | .error e => .error (.usage e)
        | .ok command => command.run settings files

def Outcome.of (words : List String) (files : Files) (env : Environment) : Outcome :=
  match runWords words files env with
  | .ok outcome => outcome
  | .error f => .failed files f

end Flotilla
