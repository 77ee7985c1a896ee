import Flotilla.Proofs.Store.Order

/-! # Air bases by area and base

Bases in order are told by those of each area and base, in the order in which they stand.
Arranging keeps that order, and a base that is added takes the place of the first one of
its area and base, wherever others stand. -/
namespace Flotilla.Store

/-- Whether a base is that of an area and base. -/
def AirBase.isAt (area base : Int64) (b : AirBase) : Bool :=
  b.areaId == area && b.baseId == base

/-- The bases of an area and base; more than one when a snapshot has repeated it. -/
def basesAt (area base : Int64) (bases : List AirBase) : List AirBase :=
  bases.filter (AirBase.isAt area base)

namespace AirBase

theorem isAt_iff {area base : Int64} {b : AirBase} :
    b.isAt area base ↔ b.areaId = area ∧ b.baseId = base := by
  rw [isAt, Bool.and_eq_true, beq_iff_eq, beq_iff_eq]

@[simp] theorem isAt_self (b : AirBase) : b.isAt b.areaId b.baseId := isAt_iff.mpr ⟨rfl, rfl⟩

theorem same_iff {a b : AirBase} : a.same b ↔ a.isAt b.areaId b.baseId := Iff.rfl

theorem le_of_isAt {area base : Int64} {a b : AirBase} (ha : a.isAt area base)
    (hb : b.isAt area base) : a.le b := by
  obtain ⟨haa, hab⟩ := isAt_iff.mp ha
  obtain ⟨hba, hbb⟩ := isAt_iff.mp hb
  rw [le_iff, haa, hab, hba, hbb]
  exact .inr ⟨rfl, Int.le_refl _⟩

theorem isAt_of_le {a b : AirBase} (hab : a.le b) (hba : b.le a) :
    a.isAt b.areaId b.baseId := by
  rw [le_iff] at hab hba
  rw [isAt_iff, ← Int64.toInt_inj, ← Int64.toInt_inj]
  omega

end AirBase

/-! ## Arranging -/

/-- Sorting keeps the order of elements that may stand either way. -/
theorem filter_inOrder {le : α → α → Bool} [Std.Total fun a b => le a b = true]
    [IsTrans α fun a b => le a b] {p : α → Bool} (either : ∀ a b, p a → p b → le a b)
    (xs : List α) : (inOrder le xs).filter p = xs.filter p := by
  rw [inOrder_eq]
  have settled : (xs.filter p).Pairwise fun a b => le a b :=
    List.pairwise_of_forall_mem_list fun a ha b hb =>
      either a b (List.mem_filter.mp ha).2 (List.mem_filter.mp hb).2
  have kept := (List.sublist_insertionSort settled List.filter_sublist).filter p
  rw [List.filter_filter, funext fun a => Bool.and_self (p a)] at kept
  have perm := (List.perm_insertionSort (fun a b => le a b) xs).filter p
  exact (kept.eq_of_length perm.length_eq.symm).symm

@[simp] theorem basesAt_arrange (area base : Int64) (bases : List AirBase) :
    basesAt area base (arrange bases) = (basesAt area base bases).map AirBase.arranged := by
  have kept : AirBase.isAt area base ∘ AirBase.arranged = AirBase.isAt area base := rfl
  rw [basesAt, arrange, List.filter_map, kept,
    filter_inOrder fun _ _ => AirBase.le_of_isAt]
  rfl

/-! ## Adding bases -/

@[simp] theorem basesAt_cons_of_isAt {area base : Int64} {b : AirBase} (h : b.isAt area base)
    (bases : List AirBase) : basesAt area base (b :: bases) = b :: basesAt area base bases :=
  List.filter_cons_of_pos h

@[simp] theorem basesAt_cons_of_not {area base : Int64} {b : AirBase} (h : ¬ b.isAt area base)
    (bases : List AirBase) : basesAt area base (b :: bases) = basesAt area base bases :=
  List.filter_cons_of_neg h

theorem basesAt_replaceBase (area base : Int64) (bases : List AirBase) (b : AirBase) :
    basesAt area base (replaceBase bases b)
      = if b.isAt area base then b :: (basesAt area base bases).tail
        else basesAt area base bases := by
  induction bases with
  | nil =>
    unfold replaceBase
    by_cases hb : b.isAt area base <;> simp [hb, basesAt]
  | cons x bases ih =>
    unfold replaceBase
    split
    · rename_i same
      have together : x.isAt area base ↔ b.isAt area base := by
        obtain ⟨sameArea, sameBase⟩ := AirBase.isAt_iff.mp (AirBase.same_iff.mp same)
        rw [AirBase.isAt_iff, AirBase.isAt_iff, sameArea, sameBase]
      by_cases hb : b.isAt area base
      · simp [hb, together.mpr hb]
      · simp [hb, mt together.mp hb]
    · rename_i other
      by_cases hx : x.isAt area base
      · have hb : ¬ b.isAt area base := by
          intro hb
          obtain ⟨hxa, hxb⟩ := AirBase.isAt_iff.mp hx
          obtain ⟨hba, hbb⟩ := AirBase.isAt_iff.mp hb
          exact other (AirBase.same_iff.mpr (AirBase.isAt_iff.mpr
            ⟨hxa.trans hba.symm, hxb.trans hbb.symm⟩))
        rw [if_neg hb] at ih
        simp [hx, hb, ih]
      · simp [hx, ih]

/-- The last of some bases of an area and base. -/
def lastBase? (records : List AirBase) (area base : Int64) : Option AirBase :=
  records.reverse.find? (AirBase.isAt area base)

theorem lastBase?_cons (b : AirBase) (records : List AirBase) (area base : Int64) :
    lastBase? (b :: records) area base
      = (lastBase? records area base).or (if b.isAt area base then some b else none) := by
  rw [lastBase?, List.reverse_cons, List.find?_append, List.find?_singleton]
  rfl

/-- Bases that are added leave of those of an area and base the last one added, in place of the
first one that was there. -/
theorem basesAt_foldl_replaceBase (area base : Int64) (records bases : List AirBase) :
    basesAt area base (records.foldl replaceBase bases)
      = (lastBase? records area base).elim (basesAt area base bases)
          fun b => b :: (basesAt area base bases).tail := by
  induction records generalizing bases with
  | nil => rfl
  | cons b records ih =>
    rw [List.foldl_cons, ih, lastBase?_cons, basesAt_replaceBase]
    cases lastBase? records area base with
    | none => split <;> rfl
    | some last => split <;> rfl

/-! ## Extensionality -/

theorem mem_of_basesAt_eq {b : AirBase} {bases others : List AirBase}
    (h : ∀ area base, basesAt area base bases = basesAt area base others) (hb : b ∈ bases) :
    b ∈ others := by
  have own : b ∈ basesAt b.areaId b.baseId bases := List.mem_filter.mpr ⟨hb, b.isAt_self⟩
  rw [h] at own
  exact (List.mem_filter.mp own).1

theorem Sorted.head_le {x y : AirBase} {bases : List AirBase} (h : Sorted AirBase.le (x :: bases))
    (hy : y ∈ x :: bases) : x.le y := by
  rcases List.mem_cons.mp hy with rfl | hy
  · exact AirBase.le_iff.mpr (.inr ⟨rfl, Int.le_refl _⟩)
  · exact (List.pairwise_cons.mp h).1 y hy

/-- Bases in order are told by those of each area and base. -/
theorem eq_of_basesAt {bases others : List AirBase} (hb : Sorted AirBase.le bases)
    (ho : Sorted AirBase.le others)
    (h : ∀ area base, basesAt area base bases = basesAt area base others) : bases = others := by
  induction bases generalizing others with
  | nil =>
    cases others with
    | nil => rfl
    | cons y others =>
      have back := fun area base => (h area base).symm
      exact absurd (mem_of_basesAt_eq back List.mem_cons_self) List.not_mem_nil
  | cons x bases ih =>
    cases others with
    | nil => exact absurd (mem_of_basesAt_eq h List.mem_cons_self) List.not_mem_nil
    | cons y others =>
      -- each first base stands in the other list, so neither may stand behind the other
      have yx : y.le x := ho.head_le (mem_of_basesAt_eq h List.mem_cons_self)
      have xy : x.le y :=
        hb.head_le (mem_of_basesAt_eq (fun area base => (h area base).symm) List.mem_cons_self)
      have firsts := h y.areaId y.baseId
      rw [basesAt_cons_of_isAt (AirBase.isAt_of_le xy yx), basesAt_cons_of_isAt y.isAt_self]
        at firsts
      obtain rfl : x = y := (List.cons.inj firsts).1
      refine congrArg (x :: ·) (ih hb.tail ho.tail fun area base => ?_)
      have both := h area base
      by_cases hx : x.isAt area base
      · rw [basesAt_cons_of_isAt hx, basesAt_cons_of_isAt hx] at both
        exact (List.cons.inj both).2
      · rwa [basesAt_cons_of_not hx, basesAt_cons_of_not hx] at both

end Flotilla.Store
