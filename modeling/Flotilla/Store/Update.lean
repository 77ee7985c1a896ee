import Flotilla.Record.Variant
import Flotilla.Store.Basic

/-! # Updates of a store

An update adds records, patches or removes some, or sets the combined mode. Every
item of it is either accepted or ignored, and an ignored item leaves the store as
it was. -/
namespace Flotilla

open Flotilla.Record Flotilla.Store

/-- A change of a store. -/
inductive Update where
  | ships (records : List Ship)
  | shipPatch (id : Int64) (fields : Json.Members)
  | shipTemplates (records : List ShipTemplate)
  | equipment (records : List Equipment)
  | equipmentRemoved (ids : List Int64)
  | equipmentTemplates (records : List EquipmentTemplate)
  | fleets (records : List Fleet)
  | fleetPatch (id : Int64) (fields : Json.Members)
  | combinedFlag (value : CombinedMode)
  | airBases (records : List AirBase)

/-- How many items of an update were accepted and how many ignored. -/
structure Tally where
  accepted : Nat := 0
  ignored : Nat := 0
deriving DecidableEq, Repr, Inhabited

namespace Tally

instance : Add Tally := ⟨fun a b => ⟨a.accepted + b.accepted, a.ignored + b.ignored⟩⟩

def all (n : Nat) : Tally := ⟨n, 0⟩

def one (accepted : Bool) : Tally := if accepted then ⟨1, 0⟩ else ⟨0, 1⟩

@[simp] theorem add_accepted (a b : Tally) : (a + b).accepted = a.accepted + b.accepted := rfl

@[simp] theorem add_ignored (a b : Tally) : (a + b).ignored = a.ignored + b.ignored := rfl

end Tally

namespace Store

/-- The field that no patch changes. -/
def idName : String := "id"

/-- Sets the named fields of the record with an id, all or none of them. The id stays
whatever the patch says about it. -/
def patch [Keyed α] (c : Codec α) (t : Table α) (id : Int64) (fields : Json.Members) :
    Table α × Tally :=
  match t.get? id with
  | none => (t, .one false)
  | some r =>
    match c.merge (fields.filter fun m => m.1 != idName) r with
    | .error _ => (t, .one false)
    | .ok r => (t.insert r, .one true)

/-- Takes the records with given ids out; an id of no record is ignored. -/
def removeAll [Keyed α] (t : Table α) : List Int64 → Table α × Tally
  | [] => (t, {})
  | id :: ids =>
    let (rest, tally) := removeAll (t.erase id) ids
    (rest, .one (t.contains id) + tally)

def apply (s : Store) : Update → Store × Tally
  | .ships records => ({ s with ships := s.ships.insertAll records }, .all records.length)
  | .shipPatch id fields =>
    let (ships, tally) := patch Ship.codec s.ships id fields
    ({ s with ships }, tally)
  | .shipTemplates records =>
    ({ s with shipTemplates := s.shipTemplates.insertAll records }, .all records.length)
  | .equipment records =>
    ({ s with equipment := s.equipment.insertAll records }, .all records.length)
  | .equipmentRemoved ids =>
    let (equipment, tally) := removeAll s.equipment ids
    ({ s with equipment }, tally)
  | .equipmentTemplates records =>
    ({ s with equipmentTemplates := s.equipmentTemplates.insertAll records },
      .all records.length)
  | .fleets records => ({ s with fleets := s.fleets.insertAll records }, .all records.length)
  | .fleetPatch id fields =>
    let (fleets, tally) := patch Fleet.codec s.fleets id fields
    ({ s with fleets }, tally)
  | .combinedFlag value => ({ s with combined := value }, .one true)
  | .airBases records =>
    ({ s with airBases := arrange (records.foldl replaceBase s.airBases) },
      .all records.length)

def applyAll (s : Store) : List Update → Store × Tally
  | [] => (s, {})
  | u :: us =>
    let (s, tally) := s.apply u
    let (s, rest) := s.applyAll us
    (s, tally + rest)

end Store

namespace Update

inductive Kind where
  | ships
  | shipPatch
  | shipTemplates
  | equipment
  | equipmentRemoved
  | equipmentTemplates
  | fleets
  | fleetPatch
  | combinedFlag
  | airBases
deriving DecidableEq

def kinds : List (String × Kind) :=
  [("ships", .ships), ("ship_patch", .shipPatch), ("ship_templates", .shipTemplates),
   ("equipment", .equipment), ("equipment_removed", .equipmentRemoved),
   ("equipment_templates", .equipmentTemplates), ("fleets", .fleets),
   ("fleet_patch", .fleetPatch), ("combined_flag", .combinedFlag), ("air_bases", .airBases)]

/-- How a refusal names the type of an update. -/
def typeName : String := "StoreUpdate"

def single (kind field : String) (blank : α) (read : Reader α) : Layout α :=
  ⟨"struct variant " ++ typeName ++ "::" ++ kind, blank, [.needs field read fun a _ => a]⟩

def recordsOf (kind : String) (c : Codec α) : Layout (List α) :=
  single kind "records" [] (readList c.read)

def patchOf (kind : String) : Layout (Int64 × Json.Members) :=
  ⟨"struct variant " ++ typeName ++ "::" ++ kind, (0, []),
    [.needs "id" readInt64 fun id p => (id, p.2), .needs "fields" readMap fun m p => (p.1, m)]⟩

/-- Reads the content of an update of a kind. -/
def ofContent (content : Json) : Kind → Reading Update
  | .ships => ((recordsOf "Ships" Ship.codec).read content.node).map .ships
  | .shipPatch =>
    ((patchOf "ShipPatch").read content.node).map fun (id, fields) => .shipPatch id fields
  | .shipTemplates =>
    ((recordsOf "ShipTemplates" ShipTemplate.codec).read content.node).map .shipTemplates
  | .equipment => ((recordsOf "Equipment" Equipment.codec).read content.node).map .equipment
  | .equipmentRemoved =>
    ((single "EquipmentRemoved" "ids" [] (readList readInt64)).read content.node).map
      .equipmentRemoved
  | .equipmentTemplates =>
    ((recordsOf "EquipmentTemplates" EquipmentTemplate.codec).read content.node).map
      .equipmentTemplates
  | .fleets => ((recordsOf "Fleets" Fleet.codec).read content.node).map .fleets
  | .fleetPatch =>
    ((patchOf "FleetPatch").read content.node).map fun (id, fields) => .fleetPatch id fields
  | .combinedFlag =>
    ((single "CombinedFlag" "value" .single CombinedMode.codec.read).read content.node).map
      .combinedFlag
  | .airBases => ((recordsOf "AirBases" AirBase.codec).read content.node).map .airBases

/-- Reads an update, told by its tag. -/
def read : Reader Update := fun n =>
  match takeTagged "type" typeName kinds Json.greatestDepth n with
  | .error e => .error e
  | .ok (kind, content) => ofContent content kind

def ofText (text : String) : Reading Update :=
  readText? read text

end Update

end Flotilla
