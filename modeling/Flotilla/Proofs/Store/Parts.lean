import Flotilla.Store.Update

/-! # Parts of a store

An update acts on one part of a store: a table, the combined flag or the air bases. The other
parts stay as they are, also when updates are applied in order. -/
namespace Flotilla

open Flotilla.Store

/-- A part of a store. -/
inductive Part where
  | ships
  | shipTemplates
  | equipment
  | equipmentTemplates
  | fleets
  | combined
  | airBases
deriving DecidableEq

/-- Two stores have the same in a part. -/
def Part.Same (s t : Store) : Part → Prop
  | .ships => s.ships = t.ships
  | .shipTemplates => s.shipTemplates = t.shipTemplates
  | .equipment => s.equipment = t.equipment
  | .equipmentTemplates => s.equipmentTemplates = t.equipmentTemplates
  | .fleets => s.fleets = t.fleets
  | .combined => s.combined = t.combined
  | .airBases => s.airBases = t.airBases

theorem Part.Same.refl (s : Store) (p : Part) : p.Same s s := by
  cases p <;> rfl

theorem Part.Same.trans {s t r : Store} {p : Part} (h : p.Same s t) (h' : p.Same t r) :
    p.Same s r := by
  cases p <;> exact Eq.trans h h'

/-- The part that an update acts on. -/
def Update.part : Update → Part
  | .ships _ | .shipPatch _ _ => .ships
  | .shipTemplates _ => .shipTemplates
  | .equipment _ | .equipmentRemoved _ => .equipment
  | .equipmentTemplates _ => .equipmentTemplates
  | .fleets _ | .fleetPatch _ _ => .fleets
  | .combinedFlag _ => .combined
  | .airBases _ => .airBases

namespace Store

/-- Two stores have the same in all of some parts. -/
def AgreeOn (parts : List Part) (s t : Store) : Prop := ∀ p ∈ parts, p.Same s t

theorem same_apply (s : Store) {u : Update} {p : Part} (h : u.part ≠ p) :
    p.Same (s.apply u).1 s := by
  cases u <;> cases p <;> first | rfl | exact absurd rfl h

theorem same_applyAll (s : Store) {us : List Update} {p : Part} (h : ∀ u ∈ us, u.part ≠ p) :
    p.Same (s.applyAll us).1 s := by
  induction us generalizing s with
  | nil => exact .refl s p
  | cons u us ih =>
    obtain ⟨first, rest⟩ := List.forall_mem_cons.mp h
    exact (ih (s.apply u).1 rest).trans (s.same_apply first)

/-- Updates of other parts leave stores in agreement. -/
theorem agreeOn_applyAll (s : Store) {us : List Update} {parts : List Part}
    (h : ∀ u ∈ us, u.part ∉ parts) : AgreeOn parts (s.applyAll us).1 s :=
  fun _ hp => s.same_applyAll fun u hu same => h u hu (same ▸ hp)

end Store

end Flotilla
