import Flotilla.Proofs.Store.Cells

/-! # Updates that do not touch each other

The footprint of an update is the cells that it names. Nothing else of a store is changed by
the update, and nothing else is told by its tally; so two updates with no cell in common can
be applied in either order. -/
namespace Flotilla

open Flotilla.Record Flotilla.Store

/-- The cells that an update names. -/
def Update.footprint : Update → List Cell
  | .ships records => records.map fun r => .ship r.id
  | .shipPatch id _ => [.ship id]
  | .shipTemplates records => records.map fun r => .shipTemplate r.id
  | .equipment records => records.map fun r => .equipment r.id
  | .equipmentRemoved ids => ids.map .equipment
  | .equipmentTemplates records => records.map fun r => .equipmentTemplate r.id
  | .fleets records => records.map fun r => .fleet r.id
  | .fleetPatch id _ => [.fleet id]
  | .combinedFlag _ => [.combined]
  | .airBases records => records.map fun b => .airBase b.areaId b.baseId

/-- Updates that have no cell in common. -/
def Update.Independent (u v : Update) : Prop := ∀ c ∈ u.footprint, c ∉ v.footprint

instance (u v : Update) : Decidable (u.Independent v) :=
  inferInstanceAs (Decidable (∀ c ∈ u.footprint, c ∉ v.footprint))

theorem Update.Independent.symm {u v : Update} (h : u.Independent v) : v.Independent u :=
  fun c hv hu => h c hu hv

namespace Store

/-! ## What is outside the footprint -/

theorem lastOf?_eq_none {α : Type} [Keyed α] {records : List α} {id : Int64}
    (h : ∀ r ∈ records, Keyed.key r ≠ id) : lastOf? records id = none := by
  refine List.find?_eq_none.mpr fun r hr => ?_
  simpa using h r (List.mem_reverse.mp hr)

theorem lastBase?_eq_none {records : List AirBase} {area base : Int64}
    (h : ∀ b ∈ records, ¬ b.isAt area base) : lastBase? records area base = none :=
  List.find?_eq_none.mpr fun b hb => h b (List.mem_reverse.mp hb)

theorem adding_eq_keep {α : Type} [Keyed α] {c : Cell} {cell : Int64 → Cell} {id : Int64}
    (effect : α → Effect c) {records : List α}
    (h : cell id ∉ records.map fun r => cell (Keyed.key r)) :
    Effect.adding effect (lastOf? records id) = .keep := by
  have none_ : lastOf? records id = none := by
    refine lastOf?_eq_none fun r hr same => h ?_
    exact List.mem_map.mpr ⟨r, hr, congrArg cell same⟩
  rw [none_]
  rfl

/-- An update keeps every cell outside its footprint. -/
theorem effect_eq_keep {u : Update} {c : Cell} (h : c ∉ u.footprint) : u.effect c = .keep := by
  cases u with
  | ships records =>
    cases c with
    | ship id => exact adding_eq_keep _ h
    | _ => rfl
  | shipPatch k fields =>
    cases c with
    | ship id => exact if_neg fun same => h (List.mem_singleton.mpr (congrArg Cell.ship same))
    | _ => rfl
  | shipTemplates records =>
    cases c with
    | shipTemplate id => exact adding_eq_keep _ h
    | _ => rfl
  | equipment records =>
    cases c with
    | equipment id => exact adding_eq_keep _ h
    | _ => rfl
  | equipmentRemoved ids =>
    cases c with
    | equipment id => exact if_neg fun named => h (List.mem_map_of_mem named)
    | _ => rfl
  | equipmentTemplates records =>
    cases c with
    | equipmentTemplate id => exact adding_eq_keep _ h
    | _ => rfl
  | fleets records =>
    cases c with
    | fleet id => exact adding_eq_keep _ h
    | _ => rfl
  | fleetPatch k fields =>
    cases c with
    | fleet id => exact if_neg fun same => h (List.mem_singleton.mpr (congrArg Cell.fleet same))
    | _ => rfl
  | combinedFlag value =>
    cases c with
    | combined => exact absurd List.mem_cons_self h
    | _ => rfl
  | airBases records =>
    cases c with
    | airBase area base =>
      have none_ : lastBase? records area base = none := by
        refine lastBase?_eq_none fun b hb at_ => h ?_
        obtain ⟨sameArea, sameBase⟩ := AirBase.isAt_iff.mp at_
        exact List.mem_map.mpr ⟨b, hb, by rw [sameArea, sameBase]⟩
      rw [Update.effect, none_]
      rfl
    | _ => rfl

theorem content_apply_of_not_mem (s : Store) {u : Update} {c : Cell} (h : c ∉ u.footprint) :
    (s.apply u).1.content c = s.content c := by
  simp [effect_eq_keep h]

/-! ## Tallies -/

theorem removeAll_tally {α : Type} [Keyed α] {t t' : Table α} {ids : List Int64}
    (h : ∀ id ∈ ids, t.get? id = t'.get? id) : (removeAll t ids).2 = (removeAll t' ids).2 := by
  induction ids generalizing t t' with
  | nil => rfl
  | cons id ids ih =>
    obtain ⟨first, h⟩ := List.forall_mem_cons.mp h
    have rest : (removeAll (t.erase id) ids).2 = (removeAll (t'.erase id) ids).2 := by
      exact ih fun k hk => by simp [h k hk]
    show Tally.one (t.get? id).isSome + _ = Tally.one (t'.get? id).isSome + _
    rw [first, rest]

/-- The tally of an update is told by the cells that it names. -/
theorem tally_eq_of_content {s t : Store} {u : Update}
    (h : ∀ c ∈ u.footprint, s.content c = t.content c) : (s.apply u).2 = (t.apply u).2 := by
  cases u with
  | shipPatch id fields => exact patch_tally (h (.ship id) List.mem_cons_self) fields
  | fleetPatch id fields => exact patch_tally (h (.fleet id) List.mem_cons_self) fields
  | equipmentRemoved ids =>
    exact removeAll_tally fun id hid => h (.equipment id) (List.mem_map_of_mem hid)
  | _ => rfl

/-! ## Either order -/

/-- Of independent updates one at most acts on a cell. -/
theorem run_run_of_independent {u v : Update} (h : u.Independent v) (c : Cell) (x : c.Content) :
    (v.effect c).run ((u.effect c).run x)
      = (if c ∈ u.footprint then u.effect c else v.effect c).run x := by
  by_cases hu : c ∈ u.footprint
  · simp [hu, effect_eq_keep (h c hu)]
  · simp [hu, effect_eq_keep hu]

theorem run_comm {u v : Update} (h : u.Independent v) (c : Cell) (x : c.Content) :
    (v.effect c).run ((u.effect c).run x) = (u.effect c).run ((v.effect c).run x) := by
  by_cases hu : c ∈ u.footprint
  · simp [effect_eq_keep (h c hu)]
  · simp [effect_eq_keep hu]

theorem content_apply_apply (s : Store) {u v : Update} (h : u.Independent v) (c : Cell) :
    ((s.apply u).1.apply v).1.content c
      = (if c ∈ u.footprint then u.effect c else v.effect c).run (s.content c) := by
  simp [run_run_of_independent h]

/-- Independent updates leave the same store in either order, in which each cell is as the one
that names it leaves it, and each of them gets the same tally. -/
theorem apply_comm (s : Store) {u v : Update} (h : u.Independent v) :
    ((s.apply u).1.apply v).1 = ((s.apply v).1.apply u).1 ∧
      ((s.apply v).1.apply u).2 = (s.apply u).2 ∧
      ((s.apply u).1.apply v).2 = (s.apply v).2 ∧
      ∀ c, ((s.apply u).1.apply v).1.content c
        = (if c ∈ u.footprint then u.effect c else v.effect c).run (s.content c) := by
  refine ⟨eq_of_content (fun c => ?_) ?_, ?_, ?_, s.content_apply_apply h⟩
  · simpa using run_comm h c _
  · rcases arranged_or_kept u with hu | hu
    · exact .inr ⟨(hu s).apply v, hu _⟩
    · rcases arranged_or_kept v with hv | hv
      · exact .inr ⟨hv _, (hv s).apply u⟩
      · exact .inl (by rw [hv, hu, hu, hv])
  · exact tally_eq_of_content fun c hu => s.content_apply_of_not_mem (h c hu)
  · exact tally_eq_of_content fun c hv => s.content_apply_of_not_mem (h.symm c hv)

/-- A store whose snapshot had two bases of one area and base. -/
def repeated : Store where
  airBases := [{ areaId := 1, baseId := 1 }, { areaId := 1, baseId := 1, name := "again" },
    { areaId := 2, baseId := 1 }]

/-- Bases of three areas, one of which stands twice, and squadrons out of order. -/
theorem apply_comm_repeated :
    let u : Update :=
      .airBases [{ areaId := 2, baseId := 1, squadrons := [⟨2, 7, 18⟩, ⟨1, 8, 18⟩] },
        { areaId := 0, baseId := 3 }]
    let v : Update := .airBases [{ areaId := 1, baseId := 1, name := "new" }]
    u.Independent v ∧
      ((repeated.apply u).1.apply v).1 = ((repeated.apply v).1.apply u).1 ∧
      ((repeated.apply v).1.apply u).2 = (repeated.apply u).2 ∧
      ((repeated.apply u).1.apply v).2 = (repeated.apply v).2 ∧
      ∀ c, ((repeated.apply u).1.apply v).1.content c
        = (if c ∈ u.footprint then u.effect c else v.effect c).run (repeated.content c) := by
  intro u v
  have independent : u.Independent v := by decide
  exact ⟨independent, apply_comm repeated independent⟩

end Store

end Flotilla
