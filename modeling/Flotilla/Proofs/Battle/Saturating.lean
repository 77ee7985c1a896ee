import Mathlib.Algebra.Order.BigOperators.Group.List
import Mathlib.Algebra.Order.Ring.Int
import Flotilla.Battle.Hit

/-! # Saturated sums are exact sums, capped once

Damage is never negative, so a sum that is held at the greatest integer at each step
is the exact sum held there once, at the end. Sums of such sums collapse in the same
way: how losses are grouped before they are added makes no difference. -/
namespace Flotilla.Battle

/-- An exact amount, held at the greatest 64-bit integer. -/
def capped (z : Int) : Int := min z Int64.maxValue.toInt

/-- The exact sum of a list. -/
def total (xs : List Int64) : Int := (xs.map Int64.toInt).sum

/-! ## Capped amounts -/

theorem capped_le (z : Int) : capped z ≤ z := Int.min_le_left _ _

theorem capped_mono {y z : Int} (h : y ≤ z) : capped y ≤ capped z := by
  unfold capped; omega

theorem capped_nonneg {z : Int} (h : 0 ≤ z) : 0 ≤ capped z := by
  unfold capped; rw [Int64.toInt_maxValue]; omega

theorem capped_of_le {z : Int} (h : z ≤ Int64.maxValue.toInt) : capped z = z := by
  unfold capped; omega

theorem capped_toInt (x : Int64) : capped x.toInt = x.toInt := capped_of_le x.toInt_le

theorem capped_add_capped {y : Int} (hy : 0 ≤ y) (z : Int) :
    capped (y + capped z) = capped (y + z) := by
  unfold capped; omega

theorem capped_capped_add {z : Int} (y : Int) (hz : 0 ≤ z) :
    capped (capped y + z) = capped (y + z) := by
  unfold capped; omega

theorem capped_eq_zero_iff {z : Int} : capped z = 0 ↔ z = 0 := by
  unfold capped
  rw [Int64.toInt_maxValue]
  omega

theorem capped_add_eq_left_iff {y z : Int} (hz : 0 ≤ z) :
    capped (y + z) = capped y ↔ z = 0 ∨ Int64.maxValue.toInt ≤ y := by
  unfold capped
  omega

/-! ## One step -/

theorem toInt_ofIntClamp_eq (z : Int) :
    (Int64.ofIntClamp z).toInt = max (capped z) Int64.minValue.toInt := by
  unfold capped
  by_cases hl : Int64.minValue.toInt ≤ z
  · by_cases hr : z ≤ Int64.maxValue.toInt
    · rw [Int64.toInt_ofIntClamp hl hr, min_eq_left hr, max_eq_left hl]
    · rw [Int64.ofIntClamp, dif_pos hl, dif_neg hr, min_eq_right (by omega), max_eq_left]
      exact Int64.minValue_le_toInt _
  · rw [Int64.ofIntClamp, dif_neg hl, max_eq_right]
    exact (Int.min_le_left _ _).trans (Int.le_of_not_le hl)

@[simp] theorem toInt_addCapped {a b : Int64} (ha : 0 ≤ a.toInt) (hb : 0 ≤ b.toInt) :
    (addCapped a b).toInt = capped (a.toInt + b.toInt) := by
  have := Int64.toInt_minValue_lt_zero
  have := capped_nonneg (Int.add_nonneg ha hb)
  rw [addCapped, toInt_ofIntClamp_eq]; omega

@[simp] theorem addCapped_zero (a : Int64) : addCapped a 0 = a := by
  rw [addCapped, Int64.toInt_zero, Int.add_zero, Int64.ofIntClamp_toInt]

@[simp] theorem zero_addCapped (a : Int64) : addCapped 0 a = a := by
  rw [addCapped, Int64.toInt_zero, Int.zero_add, Int64.ofIntClamp_toInt]

@[simp] theorem toInt_max (a b : Int64) : (max a b).toInt = max a.toInt b.toInt := by
  change (if a ≤ b then b else a).toInt = _
  split
  · rename_i h; exact (max_eq_right (Int64.le_iff_toInt_le.mp h)).symm
  · rename_i h; rw [Int64.le_iff_toInt_le] at h; exact (max_eq_left (by omega)).symm

@[simp] theorem toInt_min (a b : Int64) : (min a b).toInt = min a.toInt b.toInt := by
  change (if a ≤ b then a else b).toInt = _
  split
  · rename_i h; exact (min_eq_left (Int64.le_iff_toInt_le.mp h)).symm
  · rename_i h; rw [Int64.le_iff_toInt_le] at h; exact (min_eq_right (by omega)).symm

/-! ## Whole sums -/

theorem total_nonneg {xs : List Int64} (h : ∀ x ∈ xs, 0 ≤ x.toInt) : 0 ≤ total xs :=
  List.sum_nonneg fun _ hz => by
    obtain ⟨x, hx, rfl⟩ := List.mem_map.mp hz
    exact h x hx

@[simp] theorem total_append (xs ys : List Int64) : total (xs ++ ys) = total xs + total ys := by
  rw [total, List.map_append, List.sum_append]; rfl

theorem total_perm {xs ys : List Int64} (h : xs.Perm ys) : total xs = total ys :=
  (h.map _).sum_eq

theorem total_flatMap (f : α → List Int64) (xs : List α) :
    total (xs.flatMap f) = (xs.map fun x => total (f x)).sum := by
  induction xs with
  | nil => rfl
  | cons x xs ih => rw [List.flatMap_cons, total_append, ih, List.map_cons, List.sum_cons]

theorem toInt_eq_zero_iff {x : Int64} : x.toInt = 0 ↔ x = 0 := Int64.toInt_inj (y := 0)

theorem total_eq_zero_iff {xs : List Int64} (h : ∀ x ∈ xs, 0 ≤ x.toInt) :
    total xs = 0 ↔ ∀ x ∈ xs, x = 0 := by
  induction xs with
  | nil => exact ⟨fun _ => nofun, fun _ => rfl⟩
  | cons x xs ih =>
    obtain ⟨hx, hxs⟩ := List.forall_mem_cons.mp h
    have rest := total_nonneg hxs
    have split : total (x :: xs) = x.toInt + total xs := rfl
    rw [List.forall_mem_cons, ← ih hxs, ← toInt_eq_zero_iff, split]
    omega

theorem toInt_foldl_addCapped {xs : List Int64} (h : ∀ x ∈ xs, 0 ≤ x.toInt) {a : Int64}
    (ha : 0 ≤ a.toInt) : (xs.foldl addCapped a).toInt = capped (a.toInt + total xs) := by
  induction xs generalizing a with
  | nil => rw [List.foldl_nil, total, List.map_nil, List.sum_nil, Int.add_zero, capped_toInt]
  | cons x xs ih =>
    have hx := h x List.mem_cons_self
    have hxs : ∀ y ∈ xs, 0 ≤ y.toInt := fun y hy => h y (List.mem_cons_of_mem _ hy)
    have hax := toInt_addCapped ha hx
    rw [List.foldl_cons, ih hxs (hax ▸ capped_nonneg (Int.add_nonneg ha hx)), hax,
      capped_capped_add _ (total_nonneg hxs), total, total, List.map_cons, List.sum_cons,
      Int.add_assoc]

theorem toInt_sumCapped {xs : List Int64} (h : ∀ x ∈ xs, 0 ≤ x.toInt) :
    (sumCapped xs).toInt = capped (total xs) := by
  have h0 : (0 : Int64).toInt = 0 := Int64.toInt_zero
  rw [sumCapped, toInt_foldl_addCapped h (le_of_eq h0.symm), h0, Int.zero_add]

theorem sumCapped_perm {xs ys : List Int64} (h : ∀ x ∈ xs, 0 ≤ x.toInt) (perm : xs.Perm ys) :
    sumCapped xs = sumCapped ys := by
  have hys : ∀ y ∈ ys, 0 ≤ y.toInt := fun y hy => h y (perm.mem_iff.mpr hy)
  rw [← Int64.toInt_inj, toInt_sumCapped h, toInt_sumCapped hys, total_perm perm]

/-- Capping the terms of a sum before the sum itself changes nothing. -/
theorem capped_sum_capped {xs : List Int} (h : ∀ x ∈ xs, 0 ≤ x) :
    capped ((xs.map capped).sum) = capped xs.sum := by
  induction xs with
  | nil => rfl
  | cons x xs ih =>
    have hx := h x List.mem_cons_self
    have hxs : ∀ y ∈ xs, 0 ≤ y := fun y hy => h y (List.mem_cons_of_mem _ hy)
    rw [List.map_cons, List.sum_cons, List.sum_cons,
      ← capped_add_capped (capped_nonneg hx), ih hxs, capped_add_capped (capped_nonneg hx),
      capped_capped_add _ (List.sum_nonneg hxs)]

end Flotilla.Battle
