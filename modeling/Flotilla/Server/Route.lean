import Flotilla.Text.Basic
import Flotilla.Text.Quoted

/-! # Requests

A request names a method and a target; the target is a path and, behind a question
mark, a query. Slashes at both ends of the path make no difference. -/
namespace Flotilla.Server

structure Request where
  method : String
  target : String
  body : String := ""
  token : Option String := none
deriving DecidableEq

inductive Route where
  | health
  | fleet (id : String)
  | ships
  | equipment
  | battles
  | newBattle
  | summary (battleId : String)
  | tables (battleId : String)
  | sync
deriving DecidableEq

namespace Request

def path (r : Request) : List Char := (Text.splitFirst '?' r.target.toList).1

def query (r : Request) : List Char := (Text.splitFirst '?' r.target.toList).2

def segments (r : Request) : List String :=
  ((Text.strip '/' r.path).splitOn '/').map String.ofList

/-- What a request asks for, if it is known. -/
def route? (r : Request) : Option Route :=
  match r.method, r.segments with
  | "GET", ["api", "health"] => some .health
  | "GET", ["api", "fleets", id] => some (.fleet id)
  | "GET", ["api", "ships"] => some .ships
  | "GET", ["api", "equipment"] => some .equipment
  | "GET", ["api", "battles"] => some .battles
  | "POST", ["api", "battles"] => some .newBattle
  | "GET", ["api", "battles", id, "summary"] => some (.summary id)
  | "GET", ["api", "battles", id, "phases"] => some (.tables id)
  | "POST", ["api", "sync"] => some .sync
  | _, _ => none

end Request

inductive BadRequest where
  | idNotInteger (text : List Char)
  | fleetIdNotInteger (text : String)
deriving DecidableEq

def BadRequest.message : BadRequest → String
  | .idNotInteger text => "ids must be integers, got " ++ Text.quoted (String.ofList text)
  | .fleetIdNotInteger text => "fleet id must be an integer, got " ++ Text.quoted text

/-- The name of the parameter that lists ids, with its equals sign. -/
def idsKey : List Char := ['i', 'd', 's', '=']

/-- The list of ids in a query; a query without one lists none. -/
def idsText (query : List Char) : List Char :=
  ((query.splitOn '&').findSome? fun p => idsKey.isPrefixOf? (Text.trim p)).getD []

def readIds : List (List Char) → Except BadRequest (List Int64)
  | [] => .ok []
  | item :: rest =>
    match Text.int64? item with
    | none => .error (.idNotInteger item)
    | some id => (readIds rest).map (id :: ·)

/-- The ids of a query, with commas between them; blank items are passed over. -/
def idsOf (query : List Char) : Except BadRequest (List Int64) :=
  readIds ((((idsText query).splitOn ',').map Text.trim).filter (!·.isEmpty))

def fleetIdOf (text : String) : Except BadRequest Int64 :=
  match Text.int64? text.toList with
  | some id => .ok id
  | none => .error (.fleetIdNotInteger text)

end Flotilla.Server
