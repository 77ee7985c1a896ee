import Flotilla.Proofs.Store.Independence
import Flotilla.Proofs.Store.Keys

/-! # What updates leave in a store

An update acts on the cells that it names and leaves the others as they are. In the cells that it
names it puts something in, or revises what is there; only a removal of equipment takes anything
out. So a store keeps, over batches of any length, every record, base and flag that is not named,
and under the ids that are named it keeps a record, but for equipment that was removed. -/
namespace Flotilla

open Flotilla.Record Flotilla.Store

/-- Whether a cell holds something: a record, a combined mode, or a base. -/
def Cell.Held : (c : Cell) → c.Content → Prop
  | ship _ => fun (r : Option Ship) => r.isSome
  | shipTemplate _ => fun (r : Option ShipTemplate) => r.isSome
  | equipment _ => fun (r : Option Equipment) => r.isSome
  | equipmentTemplate _ => fun (r : Option EquipmentTemplate) => r.isSome
  | fleet _ => fun (r : Option Fleet) => r.isSome
  | combined => fun _ => True
  | airBase _ _ => fun (bases : List AirBase) => bases ≠ []

/-- Whether an update is a removal of the equipment that a cell is for. -/
def Update.Removes (u : Update) (c : Cell) : Prop :=
  ∃ ids id, u = .equipmentRemoved ids ∧ id ∈ ids ∧ c = .equipment id

/-! ## Single updates -/

namespace Cell

theorem Held.revise {c : Cell} {held : c.Content} (h : c.Held held) (i : c.Revision) :
    c.Held (c.revise i held) := by
  cases c with
  | ship id => exact Option.isSome_map.trans h
  | fleet id => exact Option.isSome_map.trans h
  | airBase area base => exact List.cons_ne_nil _ _
  | _ => exact i.elim

/-- What a cell holds is not taken out of it, unless by a removal. -/
theorem Held.run {c : Cell} {held : c.Content} (h : c.Held held) {u : Update}
    (kept : ¬ u.Removes c) : c.Held ((u.effect c).run held) := by
  cases u with
  | ships records =>
    cases c with
    | ship id => exact Effect.keeps_adding h fun _ _ => rfl
    | _ => exact h
  | shipPatch k fields =>
    cases c with
    | ship id => exact Effect.keeps_onNamed h fun _ => h.revise fields
    | _ => exact h
  | shipTemplates records =>
    cases c with
    | shipTemplate id => exact Effect.keeps_adding h fun _ _ => rfl
    | _ => exact h
  | equipment records =>
    cases c with
    | equipment id => exact Effect.keeps_adding h fun _ _ => rfl
    | _ => exact h
  | equipmentRemoved ids =>
    cases c with
    | equipment id =>
      exact Effect.keeps_onNamed h fun named => absurd ⟨ids, id, rfl, named, rfl⟩ kept
    | _ => exact h
  | equipmentTemplates records =>
    cases c with
    | equipmentTemplate id => exact Effect.keeps_adding h fun _ _ => rfl
    | _ => exact h
  | fleets records =>
    cases c with
    | fleet id => exact Effect.keeps_adding h fun _ _ => rfl
    | _ => exact h
  | fleetPatch k fields =>
    cases c with
    | fleet id => exact Effect.keeps_onNamed h fun _ => h.revise fields
    | _ => exact h
  | combinedFlag value =>
    cases c with
    | combined => trivial
    | _ => exact h
  | airBases records =>
    cases c with
    | airBase area base => exact Effect.keeps_adding h fun last _ => h.revise last
    | _ => exact h

theorem Held.runAll {c : Cell} {held : c.Content} (h : c.Held held) {us : List Update}
    (kept : ∀ u ∈ us, ¬ u.Removes c) :
    c.Held (us.foldl (fun x u => (u.effect c).run x) held) := by
  induction us generalizing held with
  | nil => exact h
  | cons u us ih =>
    obtain ⟨first, rest⟩ := List.forall_mem_cons.mp kept
    exact ih (h.run first) rest

end Cell

/-- The cell of a base. -/
def Store.AirBase.cell (b : AirBase) : Cell := .airBase b.areaId b.baseId

namespace Store

/-- Whether no update of a batch names a cell. -/
def Unnamed (us : List Update) (c : Cell) : Prop := ∀ u ∈ us, c ∉ u.footprint

instance (us : List Update) (c : Cell) : Decidable (Unnamed us c) :=
  inferInstanceAs (Decidable (∀ u ∈ us, c ∉ u.footprint))

theorem content_applyAll_of_unnamed (s : Store) {us : List Update} {c : Cell}
    (h : Unnamed us c) : (s.applyAll us).1.content c = s.content c := by
  induction us generalizing s with
  | nil => rfl
  | cons u us ih =>
    obtain ⟨first, rest⟩ := List.forall_mem_cons.mp h
    exact (ih (s.apply u).1 rest).trans (s.content_apply_of_not_mem first)

theorem cell_of_isAt {area base : Int64} {b : AirBase} (h : b.isAt area base) :
    b.cell = .airBase area base := by
  obtain ⟨sameArea, sameBase⟩ := AirBase.isAt_iff.mp h
  rw [AirBase.cell, sameArea, sameBase]

/-- Bases that are chosen by their cells alone stand together at an area and base, or not at
all. -/
theorem basesAt_filter_cell (chosen : Cell → Prop) [DecidablePred chosen] (area base : Int64)
    (bases : List AirBase) :
    basesAt area base (bases.filter fun b => chosen b.cell)
      = if chosen (.airBase area base) then basesAt area base bases else [] := by
  rw [basesAt, List.filter_filter]
  split
  · rename_i here
    refine List.filter_congr fun b _ => ?_
    cases at_ : b.isAt area base with
    | true => simp [cell_of_isAt at_, here]
    | false => rfl
  · rename_i elsewhere
    refine List.filter_eq_nil_iff.mpr fun b _ => ?_
    intro both
    obtain ⟨at_, chosen_⟩ := Bool.and_eq_true_iff.mp both
    exact elsewhere (cell_of_isAt at_ ▸ of_decide_eq_true chosen_)

/-- The bases that no update names stand behind a batch as in front of it. -/
theorem Arranged.filter_unnamed {s : Store} (h : s.Arranged) (us : List Update) :
    (s.applyAll us).1.airBases.filter (fun b => Unnamed us b.cell)
      = s.airBases.filter fun b => Unnamed us b.cell := by
  have after := h.applyAll us
  refine eq_of_basesAt (after.sorted.filter _) (h.sorted.filter _) fun area base => ?_
  rw [basesAt_filter_cell, basesAt_filter_cell, basesAt_of_arranged after, basesAt_of_arranged h]
  refine ite_congr rfl (fun unnamed => ?_) fun _ => rfl
  exact s.content_applyAll_of_unnamed unnamed

/-- What a batch keeps of the store that it finds. -/
structure Keeps (us : List Update) (s t : Store) : Prop where
  /-- Where something was held something is held still, but for equipment that a removal names. -/
  held : ∀ c : Cell, c.Held (s.content c) →
    c.Held (t.content c) ∨ ∃ ids id, .equipmentRemoved ids ∈ us ∧ id ∈ ids ∧ c = .equipment id
  /-- A cell that no update names holds what it held. -/
  unnamed : ∀ c : Cell, Unnamed us c → t.content c = s.content c
  /-- The bases that no update names are the same, in the same order. -/
  bases : t.airBases.filter (fun b => Unnamed us b.cell)
    = s.airBases.filter fun b => Unnamed us b.cell

/-- A batch keeps what it does not name, and takes out nothing but equipment, in every store that
batches lead to. -/
theorem batch_keeps {start : Store} (h : start.Fresh) (before us : List Update) :
    Keeps us (start.applyAll before).1 ((start.applyAll before).1.applyAll us).1 where
  held c held := by
    by_cases removed : ∃ u ∈ us, u.Removes c
    · obtain ⟨u, hu, ids, id, rfl, named, same⟩ := removed
      exact .inr ⟨ids, id, hu, named, same⟩
    · left
      rw [content_applyAll]
      exact held.runAll fun u hu removes => removed ⟨u, hu, removes⟩
  unnamed _ unnamed := content_applyAll_of_unnamed _ unnamed
  bases := (h.arranged.applyAll before).filter_unnamed us

/-- A batch that patches one of two ships, takes one of two items out, and replaces the last of
three bases and puts one in front of them. -/
theorem batch_keeps_others :
    let before : List Update :=
      [.ships [{ id := 7 }, { id := 8, level := 3 }], .equipment [{ id := 5 }, { id := 6 }],
        .airBases [{ areaId := 3, baseId := 1 }, { areaId := 2, baseId := 2, name := "south" },
          { areaId := 2, baseId := 1, name := "north" }]]
    let us : List Update :=
      [.shipPatch 7 [("level", .int 9), ("id", .int 8)], .equipmentRemoved [5, 9],
        .airBases [{ areaId := 3, baseId := 1, name := "new" }, { areaId := 1, baseId := 4 }]]
    let s := (applyAll {} before).1
    let t := (s.applyAll us).1
    Fresh {} ∧ Keeps us s t ∧ t.ships.get? 8 = some { id := 8, level := 3 } ∧
      t.equipment.get? 5 = none ∧ (t.equipment.get? 6).isSome ∧
      (t.airBases.filter fun b => Unnamed us b.cell).map (·.name) = ["north", "south"] := by
  intro before us s t
  have fresh : Fresh {} := .inl rfl
  have keeps : Keeps us s t := batch_keeps fresh before us
  have other : t.ships.get? 8 = s.ships.get? 8 := keeps.unnamed (.ship 8) (by decide)
  have known : (s.equipment.get? 6).isSome := by decide +kernel
  have kept : (t.equipment.get? 6).isSome := by
    have same : t.equipment.get? 6 = s.equipment.get? 6 :=
      keeps.unnamed (.equipment 6) (by decide)
    rw [same]
    exact known
  have names : (s.airBases.filter fun b => Unnamed us b.cell).map (·.name) = ["north", "south"] := by
    decide +kernel
  refine ⟨fresh, keeps, other.trans (by decide +kernel), by decide +kernel, kept, ?_⟩
  rw [keeps.bases]
  exact names

end Store

end Flotilla
