import Flotilla.Json.Node

/-! # JSON values

A value holds no faults. `Node.hold` takes the value out of a text, with a limit
on how deeply lists and objects may be nested; objects keep their members in text
order, repeated keys included. `Json.settled` is the form in which an object is a
map: keys ascending, the last member of a repeated key wins. -/
namespace Flotilla

inductive Json where
  | null
  | bool (b : Bool)
  | number (n : Json.Number)
  | string (s : String)
  | list (elements : List Json)
  | object (members : List (String × Json))

namespace Json

abbrev Members := List (String × Json)

def int (z : Int) : Json := .number (.integer z)

def nat (n : Nat) : Json := .number (.integer n)

/-- A value, or null where there is none. -/
def ofOption (f : α → Json) : Option α → Json
  | none => .null
  | some a => f a

def ofList (f : α → Json) (xs : List α) : Json :=
  .list (xs.map f)

/-- The deepest nesting of lists and objects that is held. -/
def greatestDepth : Nat := 127

mutual

/-- Takes the value out of a tree, with room for a number of nested lists and objects. -/
def Node.hold (room : Nat) : Node → Except Fault Json
  | .null => .ok .null
  | .bool b => .ok (.bool b)
  | .number value => value.map .number
  | .string value => value.map fun cs => .string (String.ofList cs)
  | .list elements last =>
    match room with
    | 0 => .error .tooDeep
    | room + 1 =>
      match holdElements room elements, last.fault? with
      | .error f, _ => .error f
      | .ok _, some f => .error f
      | .ok values, none => .ok (.list values)
  | .object members last =>
    match room with
    | 0 => .error .tooDeep
    | room + 1 =>
      match holdMembers room members, last.fault? with
      | .error f, _ => .error f
      | .ok _, some f => .error f
      | .ok values, none => .ok (.object values)
  | .fault f _ => .error f

def holdElements (room : Nat) : List Node → Except Fault (List Json)
  | [] => .ok []
  | n :: ns =>
    match n.hold room with
    | .error f => .error f
    | .ok v => (holdElements room ns).map (v :: ·)

def holdMembers (room : Nat) : List (Content × Node) → Except Fault Members
  | [] => .ok []
  | (key, n) :: ns =>
    match key with
    | .error f => .error f
    | .ok cs =>
      match n.hold room with
      | .error f => .error f
      | .ok v => (holdMembers room ns).map ((String.ofList cs, v) :: ·)

end

mutual

def node : Json → Node
  | .null => .null
  | .bool b => .bool b
  | .number n => .number (.ok n)
  | .string s => .string (.ok s.toList)
  | .list elements => .list (nodes elements) .held
  | .object members => .object (memberNodes members) .closed

def nodes : List Json → List Node
  | [] => []
  | v :: vs => v.node :: nodes vs

def memberNodes : List (String × Json) → List (Content × Node)
  | [] => []
  | (key, v) :: vs => (.ok key.toList, v.node) :: memberNodes vs

end

/-- Sets a key of a map with ascending keys. -/
def put (key : String) (value : Json) : Members → Members
  | [] => [(key, value)]
  | (k, v) :: rest =>
    if key < k then (key, value) :: (k, v) :: rest
    else if key = k then (key, value) :: rest
    else (k, v) :: put key value rest

/-- The map that a list of members describes. -/
def settle (members : Members) : Members :=
  members.foldl (fun map m => put m.1 m.2 map) []

/-- An object as a map with members set in it; a value of another kind stays as it is. -/
def withMembers (members : Members) : Json → Json
  | .object own => .object (members.foldl (fun map m => put m.1 m.2 map) (settle own))
  | v => v

mutual

/-- The value with each object as a map. -/
def settled : Json → Json
  | .null => .null
  | .bool b => .bool b
  | .number n => .number n
  | .string s => .string s
  | .list elements => .list (settledElements elements)
  | .object members => .object (settle (settledMembers members))

def settledElements : List Json → List Json
  | [] => []
  | v :: vs => v.settled :: settledElements vs

/-- The members with each object in them as a map. -/
def settledMembers : List (String × Json) → Members
  | [] => []
  | (key, v) :: vs => (key, v.settled) :: settledMembers vs

end

/-- Reads a text that holds one value and nothing else. -/
def ofText (text : String) : Except Fault Json :=
  let document := Document.read text.toList
  match document.root.hold greatestDepth with
  | .error f => .error f
  | .ok v => if document.more then .error .trailingCharacters else .ok v.settled

end Json

end Flotilla
