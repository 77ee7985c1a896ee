import Flotilla.Store.Basic

/-! # Joins

A ship with its template and its equipment, an item of equipment with its template.
A reference to an absent record gives a missing lookup that keeps the id, so a join
of a half-known store is still complete. -/
namespace Flotilla.Store

open Flotilla.Record

/-- A record, or the id under which none was found; no id when the reference itself is
unknown. -/
inductive Lookup (α : Type) where
  | found (value : α)
  | missing (id : Option Int64)
deriving DecidableEq

namespace Lookup

def ofOption (id : Int64) : Option α → Lookup α
  | some a => .found a
  | none => .missing (some id)

/-- The record, if one was found. -/
def found? : Lookup α → Option α
  | .found a => some a
  | .missing _ => none

def isFound (l : Lookup α) : Bool := l.found?.isSome

def toJson (write : α → Json) : Lookup α → Json
  | .found a => .object [("status", .string "found"), ("value", write a)]
  | .missing id =>
    .object [("status", .string "missing"),
      ("value", .object [("id", Json.ofOption int64.write id)])]

end Lookup

def unknownName : String := "Unknown"

inductive Slot where
  | fixed (index : Nat)
  | expansion
deriving DecidableEq

def Slot.toJson : Slot → Json
  | .fixed index => .object [("kind", .string "fixed"), ("index", .nat index)]
  | .expansion => .object [("kind", .string "expansion")]

/-- An occupied slot. -/
structure SlotRef where
  slot : Slot
  equipmentId : Int64
deriving DecidableEq

/-- A ship with its template, its occupied slots, and the items and item templates that
these refer to, by id. -/
structure ShipJoin where
  shipId : Int64
  ship : Lookup Ship
  template : Lookup ShipTemplate
  slots : List SlotRef := []
  items : List (Int64 × Lookup Equipment) := []
  itemTemplates : List (Int64 × Lookup EquipmentTemplate) := []

/-- The name of the template, if it was found. -/
def ShipJoin.displayName (j : ShipJoin) : String :=
  (j.template.found?.map (·.name)).getD unknownName

/-- The template of an equipped item, when both the item and it were found. -/
def ShipJoin.itemTemplate (j : ShipJoin) (equipmentId : Int64) : Option EquipmentTemplate := do
  let item ← (← valueAt? j.items equipmentId).found?
  (← valueAt? j.itemTemplates item.templateId).found?

structure EquipmentJoin where
  equipmentId : Int64
  item : Lookup Equipment
  template : Lookup EquipmentTemplate

/-- The name of the template, if it was found. -/
def EquipmentJoin.displayName (j : EquipmentJoin) : String :=
  (j.template.found?.map (·.name)).getD unknownName

/-- The occupied slots of a ship in order, the expansion slot last. -/
def slotRefs (ship : Ship) : List SlotRef :=
  let fixed := ship.slots.zipIdx.map fun (id, index) => SlotRef.mk (.fixed index) id
  (fixed ++ [SlotRef.mk .expansion ship.expansionSlot]).filter fun r => 0 < r.equipmentId

def joinEquipment (s : Store) (id : Int64) : EquipmentJoin :=
  match s.equipment.get? id with
  | none => ⟨id, .missing (some id), .missing none⟩
  | some item =>
    ⟨id, .found item, .ofOption item.templateId (s.equipmentTemplates.get? item.templateId)⟩

/-- The items that slots refer to, by id. -/
def itemsOf (s : Store) (slots : List SlotRef) : List (Int64 × Lookup Equipment) :=
  slots.foldl (fun items r => putEntry items r.equipmentId (s.joinEquipment r.equipmentId).item) []

/-- The templates of the known items that slots refer to, by id. -/
def itemTemplatesOf (s : Store) (slots : List SlotRef) :
    List (Int64 × Lookup EquipmentTemplate) :=
  slots.foldl (fun templates r =>
    let join := s.joinEquipment r.equipmentId
    match join.item with
    | .found item => putEntry templates item.templateId join.template
    | .missing _ => templates) []

def joinShip (s : Store) (id : Int64) : ShipJoin :=
  match s.ships.get? id with
  | none => { shipId := id, ship := .missing (some id), template := .missing none }
  | some ship =>
    let slots := slotRefs ship
    { shipId := id
      ship := .found ship
      template := .ofOption ship.templateId (s.shipTemplates.get? ship.templateId)
      slots
      items := s.itemsOf slots
      itemTemplates := s.itemTemplatesOf slots }

/-- Joins ships, by id; an id given twice is joined once. -/
def joinShips (s : Store) (ids : List Int64) : List (Int64 × ShipJoin) :=
  ids.foldl (fun joins id => putEntry joins id (s.joinShip id)) []

def joinEquipmentList (s : Store) (ids : List Int64) : List EquipmentJoin :=
  ids.map s.joinEquipment

/-- Entries by id as an object, in ascending order of id. -/
def entriesJson (write : α → Json) (entries : List (Int64 × α)) : Json :=
  .object (entries.map fun e => (Text.ofInt64 e.1, write e.2))

def SlotRef.toJson (r : SlotRef) : Json :=
  .object [("slot", r.slot.toJson), ("equipment_id", int64.write r.equipmentId)]

def ShipJoin.toJson (j : ShipJoin) : Json :=
  .object [
    ("ship_id", int64.write j.shipId),
    ("ship", j.ship.toJson Ship.codec.write),
    ("template", j.template.toJson ShipTemplate.codec.write),
    ("slots", Json.ofList SlotRef.toJson j.slots),
    ("items", entriesJson (Lookup.toJson Equipment.codec.write) j.items),
    ("item_templates", entriesJson (Lookup.toJson EquipmentTemplate.codec.write) j.itemTemplates)]

def EquipmentJoin.toJson (j : EquipmentJoin) : Json :=
  .object [
    ("equipment_id", int64.write j.equipmentId),
    ("item", j.item.toJson Equipment.codec.write),
    ("template", j.template.toJson EquipmentTemplate.codec.write)]

def Berth.toJson (b : Berth) : Json :=
  .object [("position", .nat b.position), ("ship_id", Json.ofOption int64.write b.shipId)]

def Formation.toJson (f : Formation) : Json :=
  .object [
    ("fleet_id", int64.write f.fleetId),
    ("combined", .bool f.combined),
    ("main", Json.ofList Berth.toJson f.main),
    ("escort", Json.ofList Berth.toJson f.escort)]

end Flotilla.Store
