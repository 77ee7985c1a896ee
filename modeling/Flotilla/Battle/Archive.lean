import Flotilla.Battle.Record
import Flotilla.Record.Scalar
import Flotilla.Time.Instant

/-! # The archive

The battles received last, at most one for each id and at most as many as the
capacity. Battles are looked up by id; a queue of ids keeps the order in which they
were received. A battle that is delivered again moves to the end of the queue; when
one battle too many is held, the front of the queue is dropped. -/
namespace Flotilla.Battle

open Flotilla.Record

/-- A battle with the time at which it was received. -/
structure Archived where
  receivedAt : Instant
  battle : Battle
deriving DecidableEq

def Archived.id (a : Archived) : String := a.battle.id

/-- The number of battles kept when no capacity is given. -/
def defaultCapacity : Nat := 200

/-- Battles by id, at most one for each id. -/
structure Shelf where
  entries : List (String × Archived)
  distinct : (entries.map (·.1)).Nodup

namespace Shelf

def empty : Shelf := ⟨[], .nil⟩

def get? (s : Shelf) (id : String) : Option Archived :=
  (s.entries.find? fun e => e.1 == id).map (·.2)

def erase (s : Shelf) (id : String) : Shelf :=
  ⟨s.entries.filter fun e => e.1 != id, s.distinct.sublist (List.filter_sublist.map _)⟩

theorem not_mem_erase (s : Shelf) (id : String) : id ∉ (s.erase id).entries.map (·.1) := by
  simp [erase]

/-- Puts a battle under an id, in place of the one there. -/
def insert (s : Shelf) (id : String) (a : Archived) : Shelf :=
  ⟨(id, a) :: (s.erase id).entries, List.nodup_cons.mpr ⟨s.not_mem_erase id, (s.erase id).distinct⟩⟩

def size (s : Shelf) : Nat := s.entries.length

@[simp] theorem get?_empty (k : String) : empty.get? k = none := rfl

@[simp] theorem get?_erase (s : Shelf) (id k : String) :
    (s.erase id).get? k = if k = id then none else s.get? k := by
  simp only [get?, erase, List.find?_filter]
  by_cases h : k = id
  · simp +contextual [h]
  · have same : (fun e : String × Archived => decide ((e.1 != id) = true ∧ (e.1 == k) = true))
        = fun e => e.1 == k := by
      funext e
      by_cases hk : e.1 = k <;> simp [hk, h]
    rw [if_neg h, same]

@[simp] theorem get?_insert (s : Shelf) (id k : String) (a : Archived) :
    (s.insert id a).get? k = if k = id then some a else s.get? k := by
  by_cases h : k = id
  · simp [h, get?, insert]
  · have skip : (id == k) = false := beq_eq_false_iff_ne.mpr (Ne.symm h)
    have rest : (s.insert id a).get? k = (s.erase id).get? k := by
      simp only [get?, insert, List.find?_cons, skip]
    simp [rest, h]

end Shelf

/-- The battles received last. -/
structure Archive where
  capacity : Nat
  /-- The ids in the order of receipt, the oldest first. -/
  order : List String
  shelf : Shelf

namespace Archive

/-- An archive without battles; a capacity of zero is raised to one. -/
def ofCapacity (capacity : Nat) : Archive := ⟨max capacity 1, [], .empty⟩

instance : Inhabited Archive := ⟨ofCapacity defaultCapacity⟩

def size (a : Archive) : Nat := a.shelf.size

def get? (a : Archive) (id : String) : Option Battle :=
  (a.shelf.get? id).map (·.battle)

/-- The battles, newest first. -/
def entries (a : Archive) : List Archived :=
  a.order.reverse.filterMap a.shelf.get?

/-- Takes the battle of an id out of the archive. -/
def withdraw (a : Archive) (id : String) : Archive × Option Battle :=
  match a.shelf.get? id with
  | none => (a, none)
  | some old =>
    ({ a with order := a.order.filter (· != id), shelf := a.shelf.erase id }, some old.battle)

def enter (a : Archive) (e : Archived) : Archive :=
  { a with order := a.order ++ [e.id], shelf := a.shelf.insert e.id e }

/-- Drops the oldest battle when there are more than the capacity. -/
def trim (a : Archive) : Archive × Option Battle :=
  if a.capacity < a.order.length then
    match a.order with
    | [] => (a, none)
    | oldest :: order => ({ a with order, shelf := a.shelf.erase oldest }, a.get? oldest)
  else (a, none)

/-- Adds a battle. Gives the battle with its id that it replaces, or else the one that no
longer fits. -/
def insert (a : Archive) (battle : Battle) (receivedAt : Instant) : Archive × Option Battle :=
  let (a, replaced) := a.withdraw battle.id
  let (a, evicted) := (a.enter ⟨receivedAt, battle⟩).trim
  (a, replaced.or evicted)

end Archive

/-- The line of a battle in the list of an archive. -/
structure Listing where
  id : String
  receivedAt : Instant
  areaId : Int64
  mapId : Int64
  cellId : Int64
  night : Bool
deriving DecidableEq

def Archived.listing (a : Archived) : Listing where
  id := a.id
  receivedAt := a.receivedAt
  areaId := a.battle.areaId
  mapId := a.battle.mapId
  cellId := a.battle.cellId
  night := a.battle.night.isSome

def Listing.toJson (l : Listing) : Json :=
  .object [
    ("id", .string l.id),
    ("received_at", .string l.receivedAt.text),
    ("area_id", int64.write l.areaId),
    ("map_id", int64.write l.mapId),
    ("cell_id", int64.write l.cellId),
    ("night", .bool l.night)]

/-- The written form of the line of an archived battle. -/
def Archived.toJson (a : Archived) : Json := a.listing.toJson

end Flotilla.Battle
