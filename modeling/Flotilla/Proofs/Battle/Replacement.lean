import Flotilla.Proofs.Battle.Planes

/-! # Bases that take the place of others

A base that is added takes the place of the first one of its area and base. A snapshot is put
in order when it is loaded, but bases that it repeats all stay; so more than one base stands at
an area and base just when the snapshot had more than one there, and then the ones behind the
first are never replaced. -/
namespace Flotilla

open Flotilla.Store

namespace Battle

/-! ## The pool -/

/-- Only `b` stands at an area and base, and the pool of the area is made of its planes and of
those of the bases in front of it and behind it. -/
def PoolOfOne (s : Store) (area base : Int64) (b : AirBase) : Prop :=
  ∃ front behind : List AirBase,
    s.airBasesIn area = front ++ b :: behind ∧
    (∀ x ∈ front ++ behind, x.baseId ≠ base) ∧
    landBasePool s area
      = front.flatMap (planesOf s) ++ planesOf s b ++ behind.flatMap (planesOf s)

theorem poolOfOne_iff {s : Store} {area base : Int64} {b : AirBase} (at_ : b.isAt area base) :
    PoolOfOne s area base b ↔ basesAt area base s.airBases = [b] := by
  have own : b.baseId == base := (Bool.and_eq_true_iff.mp at_).2
  rw [basesAt_eq_filter]
  constructor
  · rintro ⟨front, behind, split, others, _⟩
    have none_ (xs : List AirBase) (h : ∀ x ∈ xs, x.baseId ≠ base) :
        xs.filter (fun x => x.baseId == base) = [] :=
      List.filter_eq_nil_iff.mpr fun x hx => by simpa using h x hx
    rw [split, List.filter_append, List.filter_cons, if_pos own,
      none_ front fun x hx => others x (List.mem_append_left _ hx),
      none_ behind fun x hx => others x (List.mem_append_right _ hx), List.nil_append]
  · intro single
    obtain ⟨front, behind, split, before, _, after⟩ := List.filter_eq_cons_iff.mp single
    refine ⟨front, behind, split, fun x hx => ?_, ?_⟩
    · rcases List.mem_append.mp hx with hx | hx
      · simpa using before x hx
      · simpa using List.filter_eq_nil_iff.mp after x hx
    · rw [landBasePool_eq, split, List.flatMap_append, List.flatMap_cons, List.append_assoc]

/-! ## Replacing -/

theorem lastBase?_of_named {records : List AirBase} {area base : Int64}
    (h : ∃ b ∈ records, b.isAt area base) : ∃ last, lastBase? records area base = some last := by
  obtain ⟨b, hb, at_⟩ := h
  exact Option.isSome_iff_exists.mp (List.find?_isSome.mpr ⟨b, List.mem_reverse.mpr hb, at_⟩)

/-- After an update of air bases the last base given for an area and base stands there in place
of the first one, with its squadrons in order. No other one stands there just when the snapshot
did not repeat the base, and then no other plane of it is left in the pool. -/
theorem airBases_replace {start : Store} (h : start.Fresh) (us : List Update)
    {records : List AirBase} {area base : Int64} (named : ∃ b ∈ records, b.isAt area base) :
    let before := (start.applyAll us).1
    let after := (before.apply (.airBases records)).1
    ∃ last, lastBase? records area base = some last ∧
      basesAt area base after.airBases
        = last.arranged :: (basesAt area base before.airBases).tail ∧
      (basesAt area base after.airBases = [last.arranged] ↔ ¬ start.Repeats area base) ∧
      (PoolOfOne after area base last.arranged ↔ ¬ start.Repeats area base) := by
  intro before after
  obtain ⟨last, hlast⟩ := lastBase?_of_named named
  have at_ : last.isAt area base := List.find?_some hlast
  have arranged : before.Arranged := h.arranged.applyAll us
  have settled : (basesAt area base before.airBases).map AirBase.arranged
      = basesAt area base before.airBases := (basesAt_of_arranged arranged area base).symm
  have stands : basesAt area base after.airBases
      = last.arranged :: (basesAt area base before.airBases).tail := by
    rw [basesAt_apply_airBases, hlast]
    show last.arranged :: List.map _ _ = _
    rw [List.map_tail, settled]
  -- the number of bases that stand there is more than one from the snapshot on, or never
  have kept : before.Repeats area base ↔ start.Repeats area base :=
    repeats_applyAll start us area base
  have single : basesAt area base after.airBases = [last.arranged]
      ↔ ¬ start.Repeats area base := by
    rw [stands, ← kept, Store.Repeats, List.cons.injEq, ← List.length_eq_zero_iff,
      List.length_tail]
    simp only [true_and]
    omega
  exact ⟨last, hlast, stands, single, (poolOfOne_iff (b := last.arranged) at_).trans single⟩

/-- A base that is given twice in one update replaces the one of an earlier update. -/
theorem airBases_replace_bases :
    let records : List AirBase :=
      [{ areaId := 1, baseId := 1, name := "first" },
        { areaId := 1, baseId := 1, squadrons := [⟨2, 7, 18⟩, ⟨1, 8, 18⟩] }]
    let after := ((bases.applyAll rearrangement).1.apply (.airBases records)).1
    bases.Fresh ∧ (∃ b ∈ records, b.isAt 1 1) ∧ ¬ bases.Repeats 1 1 ∧
      basesAt 1 1 after.airBases
        = [{ areaId := 1, baseId := 1, squadrons := [⟨1, 8, 18⟩, ⟨2, 7, 18⟩] }] := by
  intro records after
  have fresh : bases.Fresh := .inr ⟨basesText, ofText_bases⟩
  have named : ∃ b ∈ records, b.isAt 1 1 := by decide
  have once : ¬ bases.Repeats 1 1 := by decide
  obtain ⟨last, hlast, _, single, _⟩ := airBases_replace fresh rearrangement named
  obtain rfl := Option.some.inj hlast
  exact ⟨fresh, named, once, single.mpr once⟩

/-- A snapshot in which a base stands twice. -/
def twiceText : String :=
  "[[],[],[[10,168],[11,168],[12,168]],[],[],0,[[1,1,\"\",[[1,10]]],[1,1,\"\",[[1,11]]]]]"

/-- The base that is to replace it. -/
def newer : AirBase := { areaId := 1, baseId := 1, squadrons := [⟨1, 12, 18⟩] }

/-- Of a base that the snapshot has twice, the second one is not replaced, and its squadron stays
in the pool. -/
theorem stale_squadron_of_twiceText :
    ∃ start, Store.ofText twiceText = .ok start ∧
      let after := (start.apply (.airBases [newer])).1
      basesAt 1 1 after.airBases
          = [newer, { areaId := 1, baseId := 1, squadrons := [⟨1, 11, 0⟩] }] ∧
        landBasePool after 1 = [⟨12, 168⟩, ⟨11, 168⟩] := by
  refine ⟨(Store.ofText twiceText).toOption.getD {}, ?_⟩
  decide +kernel

end Battle

end Flotilla
