import Flotilla.Record.Layout

/-! # Air bases

An air base belongs to an area and holds squadrons by slot. Bases are kept in order
of area and base, squadrons in order of slot; entries with the same key keep the
order in which they came. -/
namespace Flotilla.Store

open Flotilla.Record

structure Squadron where
  slotId : Int64 := 0
  equipmentId : Int64 := 0
  aircraft : Int64 := 0
deriving DecidableEq, Inhabited

def Squadron.columns : List (Column Squadron) :=
  [.needs "slot_id" int64 (·.slotId) fun v s => { s with slotId := v },
   .needs "equipment_id" int64 (·.equipmentId) fun v s => { s with equipmentId := v },
   .default "aircraft" int64 (·.aircraft) fun v s => { s with aircraft := v }]

def Squadron.codec : Codec Squadron := codecOf "struct AirSquadron" {} Squadron.columns

structure AirBase where
  areaId : Int64 := 0
  baseId : Int64 := 0
  name : String := ""
  squadrons : List Squadron := []
deriving DecidableEq, Inhabited

def AirBase.columns : List (Column AirBase) :=
  [.needs "area_id" int64 (·.areaId) fun v s => { s with areaId := v },
   .needs "base_id" int64 (·.baseId) fun v s => { s with baseId := v },
   .default "name" text (·.name) fun v s => { s with name := v },
   .default "squadrons" Squadron.codec.list (·.squadrons) fun v s => { s with squadrons := v }]

def AirBase.codec : Codec AirBase := codecOf "struct AirBase" {} AirBase.columns

/-- Whether two bases have the same area and base. -/
def AirBase.same (a b : AirBase) : Bool :=
  a.areaId == b.areaId && a.baseId == b.baseId

/-- The order of bases: by area, then by base. -/
def AirBase.le (a b : AirBase) : Bool :=
  a.areaId < b.areaId || (a.areaId == b.areaId && a.baseId ≤ b.baseId)

def Squadron.le (a b : Squadron) : Bool :=
  a.slotId ≤ b.slotId

/-- Puts an element in front of the first one that it may stand before. -/
def insertInOrder (le : α → α → Bool) (a : α) : List α → List α
  | [] => [a]
  | x :: xs => if le a x then a :: x :: xs else x :: insertInOrder le a xs

/-- Sorts a list; elements that may stand either way keep their order. -/
def inOrder (le : α → α → Bool) : List α → List α
  | [] => []
  | x :: xs => insertInOrder le x (inOrder le xs)

/-- A base with its squadrons in order of slot. -/
def AirBase.arranged (b : AirBase) : AirBase :=
  { b with squadrons := inOrder Squadron.le b.squadrons }

/-- Bases in order of area and base, squadrons in order of slot. -/
def arrange (bases : List AirBase) : List AirBase :=
  (inOrder AirBase.le bases).map AirBase.arranged

/-- Puts a base in place of the first one with its area and base, or at the end. -/
def replaceBase (bases : List AirBase) (b : AirBase) : List AirBase :=
  match bases with
  | [] => [b]
  | x :: xs => if x.same b then b :: xs else x :: replaceBase xs b

end Flotilla.Store
