import Flotilla.Json.Printer
import Flotilla.Text.Quoted

/-! # Why a record cannot be read

The causes, each with the facts that its wording shows, and the one function that
words them. -/
namespace Flotilla.Record

open Flotilla.Json (Fault Number Node)

/-- What stands in a place of a JSON tree. -/
inductive Found where
  | null
  | bool (b : Bool)
  | integer (z : Int)
  | real (x : Float)
  | text (s : String)
  | list
  | map
deriving DecidableEq

def Found.message : Found → String
  | .null => "null"
  | .bool true => "boolean `true`"
  | .bool false => "boolean `false`"
  | .integer z => "integer `" ++ Text.ofInt z ++ "`"
  | .real x => "floating point `" ++ Json.realStyle.float x ++ "`"
  | .text s => "string " ++ Text.quoted s
  | .list => "sequence"
  | .map => "map"

/-- What stands at a node; a leaf with a fault gives that fault instead. -/
def found : Node → Except Fault Found
  | .null => .ok .null
  | .bool b => .ok (.bool b)
  | .number (.ok (.integer z)) => .ok (.integer z)
  | .number (.ok (.real x)) => .ok (.real x)
  | .number (.error f) => .error f
  | .string (.ok cs) => .ok (.text (String.ofList cs))
  | .string (.error f) => .error f
  | .list _ _ => .ok .list
  | .object _ _ => .ok .map
  | .fault f _ => .error f

inductive ReadError where
  /-- The text is not JSON. -/
  | malformed (f : Fault)
  /-- A value of another type than the wanted one. -/
  | wrongType (found : Found) (expected : String)
  /-- A value of the wanted type that is not allowed. -/
  | wrongValue (found : Found) (expected : String)
  /-- A list with another number of elements than the wanted one. -/
  | wrongLength (length : Nat) (expected : String)
  /-- A field without a default is absent. -/
  | missingField (name : String)
  /-- A field is given twice. -/
  | duplicateField (name : String)
  /-- A name that is none of the known ones. -/
  | unknownVariant (name : String) (known : List String)
  /-- A value that has none of the forms of a type. -/
  | noForm (type : String)
deriving DecidableEq

/-- The known names, as a message lists them. -/
def oneOf : List String → String
  | [] => "there are no variants"
  | [a] => "expected `" ++ a ++ "`"
  | [a, b] => "expected `" ++ a ++ "` or `" ++ b ++ "`"
  | names => "expected one of " ++ ", ".intercalate (names.map fun a => "`" ++ a ++ "`")

def ReadError.message : ReadError → String
  | .malformed f => f.message
  | .wrongType found expected => "invalid type: " ++ found.message ++ ", expected " ++ expected
  | .wrongValue found expected => "invalid value: " ++ found.message ++ ", expected " ++ expected
  | .wrongLength n expected => "invalid length " ++ Text.ofNat n ++ ", expected " ++ expected
  | .missingField name => "missing field `" ++ name ++ "`"
  | .duplicateField name => "duplicate field `" ++ name ++ "`"
  | .unknownVariant name known => "unknown variant `" ++ name ++ "`, " ++ oneOf known
  | .noForm type => "data did not match any variant of untagged enum " ++ type

abbrev Reading (α : Type) := Except ReadError α

abbrev Reader (α : Type) := Node → Reading α

/-- The refusal of a node that holds another type of value than the wanted one. -/
def mismatch (expected : String) (n : Node) : Reading α :=
  match found n with
  | .ok x => .error (.wrongType x expected)
  | .error f => .error (.malformed f)

/-- A fault, if there is one, ends the reading. -/
def stopAt : Option Fault → Reading Unit
  | none => .ok ()
  | some f => .error (.malformed f)

end Flotilla.Record
