import Mathlib.Data.List.Forall2
import Flotilla.Proofs.Battle.HitPoints

/-! # Comparing the series of day and night

Two series are compared as wholes. Where one of them is at no position above the other, it is the
result; where they cross, or differ in length, nothing is known at any position. No result takes
some positions from one series and some from the other, and it makes no difference which of the two
comes first, but for the name of the source. -/
namespace Flotilla.Battle

/-! ## Series at no position above another -/

/-- A series as long as another one and at no position above it. -/
def Below (xs ys : List Int64) : Prop := List.Forall₂ (· ≤ ·) xs ys

instance (xs ys : List Int64) : Decidable (Below xs ys) :=
  inferInstanceAs (Decidable (List.Forall₂ _ xs ys))

/-- One of two series is below the other. -/
def Comparable (xs ys : List Int64) : Prop := Below xs ys ∨ Below ys xs

theorem min_eq_left_iff_le {x y : Int64} : min x y = x ↔ x ≤ y := by
  rw [← Int64.toInt_inj, toInt_min, Int64.le_iff_toInt_le]
  omega

theorem min_swap (x y : Int64) : min x y = min y x := by
  rw [← Int64.toInt_inj, toInt_min, toInt_min]
  omega

theorem zipWith_min_swap (xs ys : List Int64) :
    List.zipWith min xs ys = List.zipWith min ys xs := by
  rw [List.zipWith_comm]
  simp only [min_swap]

namespace Below

variable {xs ys : List Int64}

theorem refl (xs : List Int64) : Below xs xs :=
  List.forall₂_same.mpr fun x _ => Int64.le_refl x

theorem length_eq (h : Below xs ys) : xs.length = ys.length := List.Forall₂.length_eq h

theorem antisymm (h : Below xs ys) (h' : Below ys xs) : xs = ys := by
  induction h with
  | nil => rfl
  | cons hle _ ih =>
    cases h' with
    | cons hge hrest => rw [Int64.le_antisymm hle hge, ih hrest]

theorem trans {zs : List Int64} (h : Below xs ys) (h' : Below ys zs) : Below xs zs := by
  induction h generalizing zs with
  | nil => exact h'
  | cons hle _ ih =>
    cases h' with
    | cons hle' hrest => exact .cons (Int64.le_trans hle hle') (ih hrest)

theorem iff_zipWith_min (hlen : xs.length = ys.length) :
    Below xs ys ↔ List.zipWith min xs ys = xs := by
  induction xs generalizing ys with
  | nil =>
    cases ys with
    | nil => simp [Below]
    | cons y ys => simp at hlen
  | cons x xs ih =>
    cases ys with
    | nil => simp at hlen
    | cons y ys =>
      have tail := ih (Nat.succ.inj hlen)
      rw [List.zipWith_cons_cons, List.cons.injEq, min_eq_left_iff_le, ← tail]
      exact List.forall₂_cons

theorem getElem? (h : Below xs ys) {p : Nat} {x : Int64} (hx : xs[p]? = some x) :
    ∃ y, ys[p]? = some y ∧ x ≤ y := by
  induction h generalizing p with
  | nil => cases hx
  | @cons x' y' _ _ hle _ ih =>
    cases p with
    | zero =>
      obtain rfl : x' = x := Option.some.inj hx
      exact ⟨y', rfl, hle⟩
    | succ p => exact ih hx

theorem isSome_getElem? (h : Below xs ys) (p : Nat) : (xs[p]?).isSome = (ys[p]?).isSome := by
  induction h generalizing p with
  | nil => rfl
  | cons _ _ ih =>
    cases p with
    | zero => rfl
    | succ p => exact ih p

end Below

/-! ## The result of a comparison -/

section

variable {day night : List Int64}

@[simp] theorem reconcile_self (series : List Int64) :
    reconcile (some series) (some series) = .known series .agreed := by
  have least := (Below.iff_zipWith_min rfl).mp (Below.refl series)
  simp [reconcile_of_later rfl least, laterSource]

theorem reconcile_of_below (h : Below day night) (hne : day ≠ night) :
    reconcile (some day) (some night) = .known day .day := by
  have least := (Below.iff_zipWith_min h.length_eq).mp h
  simp [reconcile, h.length_eq, least, hne]

theorem reconcile_of_above (h : Below night day) (hne : day ≠ night) :
    reconcile (some day) (some night) = .known night .night := by
  have least := (Below.iff_zipWith_min h.length_eq).mp h
  rw [zipWith_min_swap] at least
  simp [reconcile_of_later h.length_eq.symm least, laterSource, hne.symm]

/-- Series that differ in length cross as well: neither is below the other. -/
theorem reconcile_of_crossed (hday : ¬ Below day night) (hnight : ¬ Below night day) :
    reconcile (some day) (some night) = .unknown (max day.length night.length) .conflict := by
  by_cases hlen : day.length = night.length
  · rw [Below.iff_zipWith_min hlen] at hday
    rw [Below.iff_zipWith_min hlen.symm, zipWith_min_swap] at hnight
    simp [reconcile, hlen, hday, hnight]
  · simp [reconcile, hlen]

end

/-- How two series stand to each other. -/
theorem compared (day night : List Int64) :
    day = night ∨ (day ≠ night ∧ Below day night) ∨ (day ≠ night ∧ Below night day) ∨
      (¬ Below day night ∧ ¬ Below night day) := by
  by_cases heq : day = night
  · exact .inl heq
  · by_cases hday : Below day night
    · exact .inr (.inl ⟨heq, hday⟩)
    · by_cases hnight : Below night day
      · exact .inr (.inr (.inl ⟨heq, hnight⟩))
      · exact .inr (.inr (.inr ⟨hday, hnight⟩))

theorem reconcile_of_comparable {day night : List Int64} (h : Comparable day night) :
    reconcile (some day) (some night) = .known (List.zipWith min day night)
      (if day = night then .agreed else if Below day night then .day else .night) := by
  rcases compared day night with rfl | ⟨hne, hday⟩ | ⟨hne, hnight⟩ | ⟨hday, hnight⟩
  · rw [reconcile_self, (Below.iff_zipWith_min rfl).mp (.refl day), if_pos rfl]
  · simp [reconcile_of_below hday hne, (Below.iff_zipWith_min hday.length_eq).mp hday, hne, hday]
  · have hday : ¬ Below day night := fun hday => hne (hday.antisymm hnight)
    simp [reconcile_of_above hnight hne, zipWith_min_swap day night,
      (Below.iff_zipWith_min hnight.length_eq).mp hnight, hne, hday]
  · exact absurd h (not_or.mpr ⟨hday, hnight⟩)

/-- Either nothing is known, or the result is one of the series given, which is below all of
them. -/
theorem reconcile_cases (day night : Option (List Int64)) :
    (∃ size source, reconcile day night = .unknown size source) ∨
      ∃ series source, reconcile day night = .known series source ∧
        series ∈ day.toList ++ night.toList ∧
          ∀ given ∈ day.toList ++ night.toList, Below series given := by
  cases day with
  | none =>
    cases night with
    | none => exact .inl ⟨_, _, rfl⟩
    | some night => exact .inr ⟨night, _, rfl, by simp, by simpa using Below.refl night⟩
  | some day =>
    cases night with
    | none => exact .inr ⟨day, _, rfl, by simp, by simpa using Below.refl day⟩
    | some night =>
      rcases compared day night with rfl | ⟨hne, hday⟩ | ⟨hne, hnight⟩ | ⟨hday, hnight⟩
      · exact .inr ⟨day, _, reconcile_self day, by simp, by simpa using Below.refl day⟩
      · exact .inr ⟨day, _, reconcile_of_below hday hne, by simp, by simp [Below.refl, hday]⟩
      · exact .inr ⟨night, _, reconcile_of_above hnight hne, by simp, by simp [Below.refl, hnight]⟩
      · exact .inl ⟨_, _, reconcile_of_crossed hday hnight⟩

theorem reconcile_whole (day night : Option (List Int64)) :
    (∀ hp ∈ (reconcile day night).hps, hp.isSome) ∨
      ∀ hp ∈ (reconcile day night).hps, hp = none := by
  rcases reconcile_cases day night with ⟨size, source, heq⟩ | ⟨series, source, heq, _⟩
  · right
    intro hp hmem
    rw [heq] at hmem
    exact (List.mem_replicate.mp hmem).2
  · left
    intro hp hmem
    rw [heq] at hmem
    obtain ⟨x, _, rfl⟩ := List.mem_map.mp hmem
    rfl

/-! ## The other way round -/

/-- The source when day and night change places. -/
def HpSource.exchanged : HpSource → HpSource
  | .day => .night
  | .night => .day
  | source => source

/-- The same hit points when day and night change places. -/
def Reconciled.exchanged (r : Reconciled) : Reconciled := ⟨r.hps, r.source.exchanged⟩

theorem reconcile_exchanged (day night : Option (List Int64)) :
    reconcile night day = (reconcile day night).exchanged := by
  cases day with
  | none => cases night <;> rfl
  | some day =>
    cases night with
    | none => rfl
    | some night =>
      rcases compared day night with rfl | ⟨hne, hday⟩ | ⟨hne, hnight⟩ | ⟨hday, hnight⟩
      · rw [reconcile_self]; rfl
      · rw [reconcile_of_below hday hne, reconcile_of_above hday hne.symm]; rfl
      · rw [reconcile_of_above hnight hne, reconcile_of_below hnight hne.symm]; rfl
      · rw [reconcile_of_crossed hday hnight, reconcile_of_crossed hnight hday, Nat.max_comm]; rfl

/-! ## Never spliced -/

/-- Two empty series do not cross, so a conflict is about at least one position. -/
theorem none_mem_of_crossed {day night : List Int64} (hday : ¬ Below day night) :
    none ∈ (Reconciled.unknown (max day.length night.length) .conflict).hps := by
  refine List.mem_replicate.mpr ⟨fun hzero => hday ?_, rfl⟩
  obtain rfl : day = [] := List.length_eq_zero_iff.mp (by omega)
  obtain rfl : night = [] := List.length_eq_zero_iff.mp (by simpa using hzero)
  exact .refl []

/-- Two series are never spliced. All positions are known just when one series is below the other:
the result is then the lower one at each position, and its source the series that is below, or both
when they are the same. Otherwise the two conflict, and no position of the longer one is known.
Whatever series are given, no result is known in part, and day and night may change places. -/
theorem reconcile_never_splices (day night : List Int64) :
    ((∀ hp ∈ (reconcile (some day) (some night)).hps, hp.isSome) ↔ Comparable day night) ∧
    (Comparable day night → reconcile (some day) (some night) =
      .known (List.zipWith min day night)
        (if day = night then .agreed else if Below day night then .day else .night)) ∧
    (¬ Comparable day night → reconcile (some day) (some night) =
      .unknown (max day.length night.length) .conflict) ∧
    (∀ d n, (∀ hp ∈ (reconcile d n).hps, hp.isSome) ∨ ∀ hp ∈ (reconcile d n).hps, hp = none) ∧
    ∀ d n, (reconcile n d).hps = (reconcile d n).hps ∧
      (reconcile n d).source = (reconcile d n).source.exchanged := by
  refine ⟨⟨fun known => ?_, fun comparable => ?_⟩, reconcile_of_comparable, fun crossed => ?_,
    reconcile_whole, fun d n => ?_⟩
  · by_contra crossed
    obtain ⟨hday, hnight⟩ := not_or.mp crossed
    have hmem := none_mem_of_crossed hday
    rw [← reconcile_of_crossed hday hnight] at hmem
    cases known none hmem
  · intro hp hmem
    rw [reconcile_of_comparable comparable] at hmem
    obtain ⟨x, _, rfl⟩ := List.mem_map.mp hmem
    rfl
  · obtain ⟨hday, hnight⟩ := not_or.mp crossed
    exact reconcile_of_crossed hday hnight
  · rw [reconcile_exchanged d n]
    exact ⟨rfl, rfl⟩

/-- A crossing at one position leaves nothing known at the other. -/
example : reconcile (some [70, 40]) (some [60, 50]) = .unknown 2 .conflict := by decide

end Flotilla.Battle
