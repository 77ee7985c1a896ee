import Flotilla.Record.Layout
import Flotilla.Store.Table

/-! # Fleets

A fleet is a roster of ship ids by position; an id of zero or below is an empty
position. Six positions are usable. The first fleet can be combined with a second
one: its roster then has twelve usable positions, the last six being the escort. -/
namespace Flotilla.Store

open Flotilla.Record

structure Fleet where
  id : Int64 := 0
  name : String := ""
  shipIds : List Int64 := []
deriving DecidableEq, Inhabited

instance : Keyed Fleet := ⟨Fleet.id⟩

def Fleet.columns : List (Column Fleet) :=
  [.needs "id" int64 (·.id) fun v s => { s with id := v },
   .default "name" text (·.name) fun v s => { s with name := v },
   .default "ship_ids" int64.list (·.shipIds) fun v s => { s with shipIds := v }]

def Fleet.codec : Codec Fleet := codecOf "struct FleetRoster" {} Fleet.columns

/-- Whether and how the first fleet is combined. -/
inductive CombinedMode where
  | single
  | carrierTask
  | surfaceTask
  | transport
deriving DecidableEq, Inhabited, Repr

/-- The mode of a code; a code of no mode is a single fleet. -/
def CombinedMode.ofCode (code : Int64) : CombinedMode :=
  if code = 1 then .carrierTask
  else if code = 2 then .surfaceTask
  else if code = 3 then .transport
  else .single

def CombinedMode.code : CombinedMode → Int64
  | .single => 0
  | .carrierTask => 1
  | .surfaceTask => 2
  | .transport => 3

def CombinedMode.isCombined (m : CombinedMode) : Bool :=
  m != .single

@[simp] theorem CombinedMode.ofCode_code (m : CombinedMode) : ofCode m.code = m := by
  cases m <;> rfl

def CombinedMode.codec : Codec CombinedMode :=
  ⟨fun n => (readInt64 n).map CombinedMode.ofCode, fun m => int64.write m.code⟩

def fleetSize : Nat := 6

def combinedSize : Nat := 12

def combinedFleetId : Int64 := 1

def combinedIn (mode : CombinedMode) (fleetId : Int64) : Bool :=
  mode.isCombined && fleetId == combinedFleetId

/-- The number of usable positions of a fleet in a mode. -/
def usable (mode : CombinedMode) (fleetId : Int64) : Nat :=
  if combinedIn mode fleetId then combinedSize else fleetSize

/-- A position of a fleet with the ship in it. -/
structure Berth where
  position : Nat
  shipId : Option Int64
deriving DecidableEq, Repr

/-- The ship at a place of a roster; an id of zero or below is no ship. -/
def occupant (id : Int64) : Option Int64 :=
  if 0 < id then some id else none

/-- A fleet by position: the main fleet, and the escort of a combined one. -/
structure Formation where
  fleetId : Int64
  combined : Bool
  main : List Berth
  escort : List Berth
deriving DecidableEq

namespace Formation

/-- All positions, the main fleet first. -/
def berths (f : Formation) : List Berth := f.main ++ f.escort

def mainIds (f : Formation) : List Int64 := f.main.filterMap (·.shipId)

def escortIds (f : Formation) : List Int64 := f.escort.filterMap (·.shipId)

def shipAt (f : Formation) (position : Nat) : Option Int64 :=
  (f.berths.find? fun b => b.position == position).bind (·.shipId)

def size (f : Formation) : Nat := f.main.length + f.escort.length

end Formation

def berthsOf (ids : List Int64) : List Berth :=
  ids.zipIdx.map fun (id, position) => ⟨position, occupant id⟩

/-- The fleet of an id by position, in a mode. An unknown fleet has no positions. -/
def formation (fleets : Table Fleet) (fleetId : Int64) (mode : CombinedMode) : Formation :=
  let combined := combinedIn mode fleetId
  match fleets.get? fleetId with
  | none => ⟨fleetId, combined, [], []⟩
  | some roster =>
    let berths := berthsOf (roster.shipIds.take (usable mode fleetId))
    ⟨fleetId, combined, berths.take fleetSize, berths.drop fleetSize⟩

end Flotilla.Store
