import Flotilla.Files
import Flotilla.Store.AirBase
import Flotilla.Store.Equipment
import Flotilla.Store.Fleet
import Flotilla.Store.Ship

/-! # The store

All that is known about the player's fleets: ships, equipment and fleets, the
templates that they refer to, the combined mode and the air bases. A snapshot is
the store as a text; an absent part of a snapshot is empty. The snapshot is kept in a
file between runs. Where a store is needed at any rate, a file that cannot be read
gives an empty one. -/
namespace Flotilla

open Flotilla.Record Flotilla.Store

structure Store where
  ships : Table Ship := .empty
  shipTemplates : Table ShipTemplate := .empty
  equipment : Table Equipment := .empty
  equipmentTemplates : Table EquipmentTemplate := .empty
  fleets : Table Fleet := .empty
  combined : CombinedMode := .single
  airBases : List AirBase := []

namespace Store

instance : Inhabited Store := ⟨{}⟩

/-- Tables as lists of records in order of id. -/
def table [Keyed α] (c : Codec α) : Codec (Table α) :=
  ⟨fun n => (readList c.read n).map Table.ofList, fun t => Json.ofList c.write t.rows⟩

def columns : List (Column Store) :=
  [.default "ships" (table Ship.codec) (·.ships) fun v s => { s with ships := v },
   .default "ship_templates" (table ShipTemplate.codec) (·.shipTemplates)
     fun v s => { s with shipTemplates := v },
   .default "equipment" (table Equipment.codec) (·.equipment)
     fun v s => { s with equipment := v },
   .default "equipment_templates" (table EquipmentTemplate.codec) (·.equipmentTemplates)
     fun v s => { s with equipmentTemplates := v },
   .default "fleets" (table Fleet.codec) (·.fleets) fun v s => { s with fleets := v },
   .default "combined" CombinedMode.codec (·.combined) fun v s => { s with combined := v },
   .default "air_bases" AirBase.codec.list (·.airBases) fun v s => { s with airBases := v }]

def snapshot : Codec Store := codecOf "struct NormalizedStore" {} columns

/-- Reads a snapshot; its air bases are put in order. -/
def ofText (text : String) : Reading Store :=
  (readText? snapshot.read text).map fun s => { s with airBases := arrange s.airBases }

def toText (s : Store) : String :=
  (snapshot.write s).pretty

def airBasesIn (s : Store) (areaId : Int64) : List AirBase :=
  s.airBases.filter fun b => b.areaId == areaId

/-! ## Files -/

inductive SnapshotError where
  | unreadable (path : String) (cause : FileError)
  | malformed (cause : ReadError)
deriving DecidableEq

def SnapshotError.message : SnapshotError → String
  | .unreadable path cause => "snapshot i/o failed for " ++ path ++ ": " ++ cause.message
  | .malformed cause => "failed to parse snapshot: " ++ cause.message

def load (files : Files) (path : String) : Except SnapshotError Store :=
  match files.read path with
  | .error e => .error (.unreadable path e)
  | .ok text =>
    match ofText text with
    | .error e => .error (.malformed e)
    | .ok s => .ok s

/-- The store of the snapshot at a path, or an empty one. -/
def loadOrEmpty (files : Files) (path : String) : Store :=
  match load files path with
  | .ok s => s
  | .error _ => {}

/-- Writes the snapshot of a store to a path. -/
def saveTo (s : Store) (files : Files) (path : String) : Files × Except FileError Unit :=
  files.save path (.text s.toText)

end Store

end Flotilla
