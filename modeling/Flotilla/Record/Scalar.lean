import Flotilla.Record.Error

/-! # Reading and writing single values

Readers for the types a field can have. An integer must be written as one: a
number with a fraction or an exponent, and minus zero, is not an integer. A double
may be written as an integer. -/
namespace Flotilla.Record

open Flotilla.Json (Node Number)

/-- A type that is written and read back. -/
structure Codec (α : Type) where
  read : Reader α
  write : α → Json

def readInt (low high : Int) (expected : String) : Reader Int
  | .number (.ok (.integer z)) =>
    if low ≤ z ∧ z ≤ high then .ok z else .error (.wrongValue (.integer z) expected)
  | n => mismatch expected n

def readInt64 (n : Node) : Reading Int64 :=
  (readInt Int64.minValue.toInt Int64.maxValue.toInt "i64" n).map Int64.ofInt

def readCount (n : Node) : Reading UInt64 :=
  (readInt 0 (UInt64.size - 1 : Nat) "usize" n).map fun z => UInt64.ofNat z.toNat

def readPosition (n : Node) : Reading Nat :=
  (readCount n).map UInt64.toNat

def readNat32 (n : Node) : Reading Nat :=
  (readInt 0 (UInt32.size - 1 : Nat) "u32" n).map Int.toNat

/-- The double nearest to an integer of at most 64 bits. -/
def realOfInt : Int → Float
  | .ofNat n => n.toUInt64.toFloat
  | .negSucc n => -(n + 1).toUInt64.toFloat

def readReal : Reader Float
  | .number (.ok (.integer z)) => .ok (realOfInt z)
  | .number (.ok (.real x)) => .ok x
  | n => mismatch "f64" n

def readBool : Reader Bool
  | .bool b => .ok b
  | n => mismatch "a boolean" n

def readText : Reader String
  | .string (.ok cs) => .ok (String.ofList cs)
  | n => mismatch "a string" n

def readOption (read : Reader α) : Reader (Option α)
  | .null => .ok none
  | n => (read n).map some

def readEach (read : Reader α) : List Node → Reading (List α)
  | [] => .ok []
  | n :: ns =>
    match read n with
    | .error e => .error e
    | .ok a => (readEach read ns).map (a :: ·)

def readList (read : Reader α) : Reader (List α)
  | .list elements last =>
    match readEach read elements, last.fault? with
    | .error e, _ => .error e
    | .ok _, some f => .error (.malformed f)
    | .ok as, none => .ok as
  | n => mismatch "a sequence" n

/-- The refusal of a list that goes on behind all wanted elements. Where its length is
known the refusal names it, otherwise the text is at fault. -/
def requireEnd (length wanted : Nat) (rest : List Node) (last : Json.ListEnd) : Reading Unit :=
  match rest, last with
  | [], _ => stopAt last.closeFault?
  | _ :: _, .held =>
    .error (.wrongLength length
      (if wanted = 1 then "1 element in sequence"
       else Text.ofNat wanted ++ " elements in sequence"))
  | _ :: _, _ => .error (.malformed .trailingCharacters)

/-- Reads an object as a map from keys to values. -/
def readMap : Reader Json.Members
  | n@(.object _ _) =>
    match n.hold Json.greatestDepth with
    | .ok (.object members) => .ok (Json.settle (Json.settledMembers members))
    | .ok _ => .ok []
    | .error f => .error (.malformed f)
  | n => mismatch "a map" n

def int64 : Codec Int64 := ⟨readInt64, fun x => .int x.toInt⟩

def count : Codec UInt64 := ⟨readCount, fun n => .nat n.toNat⟩

def bool : Codec Bool := ⟨readBool, .bool⟩

def text : Codec String := ⟨readText, .string⟩

def Codec.option (c : Codec α) : Codec (Option α) :=
  ⟨readOption c.read, Json.ofOption c.write⟩

def Codec.list (c : Codec α) : Codec (List α) :=
  ⟨readList c.read, Json.ofList c.write⟩

end Flotilla.Record
