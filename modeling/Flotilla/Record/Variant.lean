import Flotilla.Record.Layout

/-! # Names out of a fixed set

Readers for types whose values are told apart by a name: a bare name, or a tag
among the members of an object. A tagged value is taken out of its text as a whole
before its own fields are read. -/
namespace Flotilla.Record

open Flotilla.Json (Node Members)

def chosen (known : List (String × α)) (name : String) : Reading α :=
  match known.lookup name with
  | some a => .ok a
  | none => .error (.unknownVariant name (known.map (·.1)))

/-- The payload of a name without content: null or an empty object. -/
def requireEmpty : Node → Reading Unit
  | .null => .ok ()
  | .object [] _ => .ok ()
  | n => mismatch "unit" n

/-- Reads a bare name of a held value. The name may also be the one key of an object. -/
def readName (known : List (String × α)) : Reader α
  | .string (.ok cs) => chosen known (String.ofList cs)
  | .object members _ =>
    match members with
    | [(.ok key, value)] =>
      match chosen known (String.ofList key) with
      | .error e => .error e
      | .ok a => (requireEmpty value).map fun _ => a
    | _ => .error (.wrongValue .map "map with a single key")
  | n => mismatch "string or map" n

def readTag (known : List (String × α)) : Reader α
  | .string (.ok cs) => chosen known (String.ofList cs)
  | n => mismatch "variant identifier" n

/-- Reads the members of a tagged object: the tag's name, and the other members as
values. -/
def readTagged (tag : String) (known : List (String × α)) (room : Nat) :
    List (Json.Content × Node) → Option α → Reading (Option α × Members)
  | [], name => .ok (name, [])
  | (key, value) :: rest, name =>
    match key with
    | .error f => .error (.malformed f)
    | .ok cs =>
      if String.ofList cs = tag then
        if name.isSome then .error (.duplicateField tag)
        else
          match readTag known value with
          | .error e => .error e
          | .ok a => readTagged tag known room rest (some a)
      else
        match value.hold room with
        | .error f => .error (.malformed f)
        | .ok v =>
          (readTagged tag known room rest name).map fun (name, members) =>
            (name, (String.ofList cs, v) :: members)

/-- Takes a tagged value out of a tree: what its tag names, and its content. In an
object the tag is a member; in a list it is the first element. -/
def takeTagged (tag title : String) (known : List (String × α)) (room : Nat) :
    Reader (α × Json)
  | .object members last =>
    match room with
    | 0 => .error (.malformed .tooDeep)
    | room + 1 =>
      match readTagged tag known room members none, last.fault? with
      | .error e, _ => .error e
      | .ok _, some f => .error (.malformed f)
      | .ok (none, _), none => .error (.missingField tag)
      | .ok (some a, members), none => .ok (a, .object members)
  | .list elements last =>
    match room with
    | 0 => .error (.malformed .tooDeep)
    | room + 1 =>
      match elements with
      | [] =>
        match last.fault? with
        | some f => .error (.malformed f)
        | none => .error (.missingField tag)
      | first :: rest =>
        match readTag known first with
        | .error e => .error e
        | .ok a =>
          match Json.holdElements room rest, last.fault? with
          | .error f, _ => .error (.malformed f)
          | .ok _, some f => .error (.malformed f)
          | .ok values, none => .ok (a, .list values)
  | n => mismatch ("internally tagged enum " ++ title) n

end Flotilla.Record
