import Flotilla.Record.Scalar

/-! # Records

A record is read from an object, by field name, or from a list, by field order. In
an object unknown keys are skipped, a field given twice is refused where the second
one stands, and an absent field is refused at the end unless it has a default. In a
list the fields with defaults may be left off at the end.

A layout names the fields in order. Reading starts from a blank record, which holds
the defaults, and each field sets its part of it. -/
namespace Flotilla.Record

open Flotilla.Json (Node ListEnd ObjectEnd)

/-- One field of a record type: its name, whether it must be present, and how its value
enters the record. -/
structure Field (ρ : Type) where
  name : String
  needed : Bool
  read : Node → ρ → Reading ρ

/-- The fields of a record type, with the record that holds the defaults. The title
names the type in refusals. -/
structure Layout (ρ : Type) where
  title : String
  blank : ρ
  fields : List (Field ρ)

def Field.default (name : String) (read : Reader α) (set : α → ρ → ρ) : Field ρ :=
  ⟨name, false, fun n r => (read n).map fun a => set a r⟩

def Field.needs (name : String) (read : Reader α) (set : α → ρ → ρ) : Field ρ :=
  ⟨name, true, fun n r => (read n).map fun a => set a r⟩

/-- Reads members in order; gives the record and the names of the fields seen. -/
def readMembers (fields : List (Field ρ)) :
    List (Json.Content × Node) → List String → ρ → Reading (List String × ρ)
  | [], seen, r => .ok (seen, r)
  | (key, value) :: rest, seen, r =>
    match key with
    | .error f => .error (.malformed f)
    | .ok cs =>
      let name := String.ofList cs
      match fields.find? fun f => f.name == name with
      | none =>
        match value.skip with
        | some f => .error (.malformed f)
        | none => readMembers fields rest seen r
      | some field =>
        if seen.contains name then .error (.duplicateField name)
        else
          match field.read value r with
          | .error e => .error e
          | .ok r => readMembers fields rest (name :: seen) r

/-- The first field that is needed and was not seen. -/
def firstAbsent? (fields : List (Field ρ)) (seen : List String) : Option (Field ρ) :=
  fields.find? fun f => f.needed && !seen.contains f.name

/-- Reads elements as the fields in order. -/
def readPlaces (title : String) (place : Nat) (length : Nat) (last : ListEnd) :
    List (Field ρ) → List Node → ρ → Reading ρ
  | [], rest, r => (requireEnd length place rest last).map fun _ => r
  | field :: fields, n :: rest, r =>
    match field.read n r with
    | .error e => .error e
    | .ok r => readPlaces title (place + 1) length last fields rest r
  | field :: fields, [], r =>
    match last.fault? with
    | some f => .error (.malformed f)
    | none =>
      if field.needed then .error (.wrongLength place title)
      else readPlaces title (place + 1) length last fields [] r

/-- The type and the number of its fields, as a refusal names them. -/
def Layout.counted (l : Layout ρ) : String :=
  l.title ++ " with " ++ Text.ofNat l.fields.length
    ++ (if l.fields.length = 1 then " element" else " elements")

def Layout.read (l : Layout ρ) : Reader ρ
  | .object members last =>
    match readMembers l.fields members [] l.blank with
    | .error e => .error e
    | .ok (seen, r) =>
      match last.fault? with
      | some f => .error (.malformed f)
      | none =>
        match firstAbsent? l.fields seen with
        | some field => .error (.missingField field.name)
        | none => .ok r
  | .list elements last =>
    readPlaces l.counted 0 elements.length last l.fields elements l.blank
  | n => mismatch l.title n

/-- A field that is both read and written. -/
structure Column (ρ : Type) extends Field ρ where
  write : ρ → Json

def Column.default (name : String) (c : Codec α) (get : ρ → α) (set : α → ρ → ρ) : Column ρ :=
  ⟨.default name c.read set, fun r => c.write (get r)⟩

def Column.needs (name : String) (c : Codec α) (get : ρ → α) (set : α → ρ → ρ) : Column ρ :=
  ⟨.needs name c.read set, fun r => c.write (get r)⟩

/-- Writes a record as an object, its columns in order. -/
def writeColumns (columns : List (Column ρ)) (r : ρ) : Json :=
  .object (columns.map fun c => (c.name, c.write r))

def codecOf (title : String) (blank : ρ) (columns : List (Column ρ)) : Codec ρ :=
  ⟨Layout.read ⟨title, blank, columns.map Column.toField⟩, writeColumns columns⟩

/-- Reads a record from the written form of another one with members set in it. Names of no
field have no effect; a value that a field refuses refuses all. -/
def Codec.merge (c : Codec ρ) (members : Json.Members) (r : ρ) : Reading ρ :=
  c.read ((c.write r).withMembers members).node

/-- Reads a text that holds one value and nothing else. -/
def readText? (read : Reader α) (text : String) : Reading α :=
  let document := Json.Document.read text.toList
  match read document.root with
  | .error e => .error e
  | .ok a => if document.more then .error (.malformed .trailingCharacters) else .ok a

end Flotilla.Record
