import Flotilla.Text.Basic

/-! # Commands

A command line is a verb and its operands. Operands that a verb does not ask for are
passed over, so only too few of them are a mistake. -/
namespace Flotilla

inductive Verb where
  | serve
  | summary
  | phases
  | csv
  | batch
  | fleet
  | audit
deriving DecidableEq, Repr

namespace Verb

def program : String := "fleetview"

/-- The verbs in the order in which they are listed. -/
def all : List Verb := [.serve, .summary, .phases, .csv, .batch, .fleet, .audit]

def name : Verb → String
  | .serve => "serve"
  | .summary => "summary"
  | .phases => "phases"
  | .csv => "export"
  | .batch => "batch"
  | .fleet => "fleet"
  | .audit => "validate"

def ofName? (word : String) : Option Verb := all.find? fun v => v.name == word

def operands : Verb → List String
  | .serve => []
  | .summary | .phases | .csv => ["snapshot.json", "battle.json"]
  | .batch => ["snapshot.json", "battle-dir"]
  | .fleet => ["snapshot.json", "fleet_id"]
  | .audit => ["snapshot.json"]

end Verb

inductive Command where
  | serve
  | summary (snapshot battle : String) (asTable : Bool)
  | phases (snapshot battle : String)
  | csv (snapshot battle : String) (out : Option String)
  | batch (snapshot directory : String)
  | fleet (snapshot : String) (fleetId : Int64)
  | audit (snapshot : String)
deriving DecidableEq

inductive UsageError where
  | noVerb
  | tooFew (verb : Verb)
  | fleetIdNotInteger (text : String)
deriving DecidableEq

def UsageError.message : UsageError → String
  | .noVerb => "usage: " ++ Verb.program ++ " <" ++ "|".intercalate (Verb.all.map Verb.name) ++ ">"
  | .tooFew verb =>
    "usage: " ++ Verb.program ++ " " ++ verb.name
      ++ String.join (verb.operands.map fun o => " <" ++ o ++ ">")
  | .fleetIdNotInteger text => "invalid fleet_id '" ++ text ++ "'"

namespace Command

/-- The word that asks for a summary as a table. -/
def tableFlag : String := "--table"

/-- The command of a verb with the words behind it. -/
def ofWords (verb : Verb) (words : List String) : Except UsageError Command :=
  match verb, words with
  | .serve, _ => .ok .serve
  | .summary, snapshot :: battle :: _ =>
    .ok (.summary snapshot battle (words.contains tableFlag))
  | .phases, snapshot :: battle :: _ => .ok (.phases snapshot battle)
  | .csv, snapshot :: battle :: rest => .ok (.csv snapshot battle rest.head?)
  | .batch, snapshot :: directory :: _ => .ok (.batch snapshot directory)
  | .fleet, snapshot :: text :: _ =>
    match Text.int64? text.toList with
    | some id => .ok (.fleet snapshot id)
    | none => .error (.fleetIdNotInteger text)
  | .audit, snapshot :: _ => .ok (.audit snapshot)
  | verb, _ => .error (.tooFew verb)

end Command

end Flotilla
