import Mathlib.Data.List.Sort
import Flotilla.Store.Update

/-! # Order in the store

Tables are in order by their type, so the table of the rows of a table is that table.
Air bases are in order because every way to a store arranges them: arranging twice is
arranging once, and no update leaves them in another order. -/
namespace Flotilla.Store

/-! ## Tables -/

theorem place_of_lt {key : α → Int64} {a : α} {xs : List α} (h : ∀ x ∈ xs, key x < key a) :
    place key a xs = xs ++ [a] := by
  induction xs with
  | nil => rfl
  | cons x xs ih =>
    obtain ⟨hx, hxs⟩ := List.forall_mem_cons.mp h
    rw [place, if_neg (Int64.lt_asymm hx), if_neg (Int64.ne_of_lt hx).symm, ih hxs,
      List.cons_append]

theorem Table.ext {α : Type} [Keyed α] {t u : Table α} (h : t.rows = u.rows) : t = u := by
  cases t
  cases u
  cases h
  rfl

instance {α : Type} [Keyed α] [DecidableEq α] : DecidableEq (Table α) :=
  fun _ _ => decidable_of_iff _ ⟨Table.ext, congrArg Table.rows⟩

deriving instance DecidableEq for Store

theorem Table.rows_insertAll {α : Type} [Keyed α] (t : Table α) {rs : List α}
    (h : Ascending Keyed.key (t.rows ++ rs)) : (t.insertAll rs).rows = t.rows ++ rs := by
  induction rs generalizing t with
  | nil => rw [List.append_nil]; rfl
  | cons r rs ih =>
    obtain ⟨_, _, hlt⟩ := List.pairwise_append.mp h
    have rows : (t.insert r).rows = t.rows ++ [r] :=
      place_of_lt fun x hx => hlt x hx r List.mem_cons_self
    rw [List.append_cons, ← rows] at h ⊢
    exact ih (t.insert r) h

/-- The table of the rows of a table is the table. -/
theorem Table.ofList_rows {α : Type} [Keyed α] (t : Table α) : ofList t.rows = t :=
  Table.ext (empty.rows_insertAll t.ascending)

/-! ## Sorting -/

variable {le : α → α → Bool}

/-- A list in an order. -/
def Sorted (le : α → α → Bool) (xs : List α) : Prop := xs.Pairwise fun a b => le a b

theorem insertInOrder_eq (a : α) (xs : List α) :
    insertInOrder le a xs = xs.orderedInsert (fun a b => le a b) a := by
  induction xs with
  | nil => rfl
  | cons x xs ih => rw [insertInOrder, ih, List.orderedInsert_cons]

theorem inOrder_eq (xs : List α) : inOrder le xs = xs.insertionSort fun a b => le a b := by
  induction xs with
  | nil => rfl
  | cons x xs ih => rw [inOrder, ih, insertInOrder_eq, List.insertionSort_cons]

theorem sorted_inOrder [Std.Total fun a b => le a b = true] [IsTrans α fun a b => le a b]
    (xs : List α) : Sorted le (inOrder le xs) := by
  rw [inOrder_eq]
  exact List.pairwise_insertionSort _ xs

theorem Sorted.inOrder_eq {xs : List α} (h : Sorted le xs) : inOrder le xs = xs := by
  rw [Store.inOrder_eq]
  exact h.insertionSort_eq

theorem inOrder_inOrder [Std.Total fun a b => le a b = true] [IsTrans α fun a b => le a b]
    (xs : List α) : inOrder le (inOrder le xs) = inOrder le xs :=
  (sorted_inOrder xs).inOrder_eq

/-! ## Air bases -/

theorem Squadron.le_iff {a b : Squadron} : a.le b ↔ a.slotId.toInt ≤ b.slotId.toInt := by
  rw [le, decide_eq_true_eq, Int64.le_iff_toInt_le]

instance : Std.Total fun a b : Squadron => a.le b = true where
  total a b := by
    rw [Squadron.le_iff, Squadron.le_iff]
    omega

instance : IsTrans Squadron fun a b => a.le b where
  trans a b c := by
    rw [Squadron.le_iff, Squadron.le_iff, Squadron.le_iff]
    omega

theorem AirBase.le_iff {a b : AirBase} :
    a.le b ↔ a.areaId.toInt < b.areaId.toInt ∨
      a.areaId.toInt = b.areaId.toInt ∧ a.baseId.toInt ≤ b.baseId.toInt := by
  simp only [AirBase.le, Bool.or_eq_true, Bool.and_eq_true, decide_eq_true_eq, beq_iff_eq,
    Int64.lt_iff_toInt_lt, Int64.le_iff_toInt_le, Int64.toInt_inj]

instance : Std.Total fun a b : AirBase => a.le b = true where
  total a b := by
    rw [AirBase.le_iff, AirBase.le_iff]
    omega

instance : IsTrans AirBase fun a b => a.le b where
  trans a b c := by
    rw [AirBase.le_iff, AirBase.le_iff, AirBase.le_iff]
    omega

@[simp] theorem AirBase.arranged_arranged (b : AirBase) : b.arranged.arranged = b.arranged := by
  rw [arranged, arranged, inOrder_inOrder]

theorem sorted_map_arranged {bases : List AirBase} (h : Sorted AirBase.le bases) :
    Sorted AirBase.le (bases.map AirBase.arranged) :=
  List.pairwise_map.mpr h

/-- Arranging twice is arranging once. -/
@[simp] theorem arrange_arrange (bases : List AirBase) :
    arrange (arrange bases) = arrange bases := by
  have sorted := sorted_map_arranged (sorted_inOrder bases)
  have twice : AirBase.arranged ∘ AirBase.arranged = AirBase.arranged :=
    funext AirBase.arranged_arranged
  rw [arrange, arrange, sorted.inOrder_eq, List.map_map, twice]

/-- A store with its air bases in order. -/
def Arranged (s : Store) : Prop := arrange s.airBases = s.airBases

@[simp] theorem arranged_empty : ({} : Store).Arranged := rfl

theorem Arranged.apply {s : Store} (h : s.Arranged) (u : Update) : (s.apply u).1.Arranged := by
  cases u with
  | airBases records => exact arrange_arrange _
  | _ => exact h

theorem Arranged.applyAll {s : Store} (h : s.Arranged) (us : List Update) :
    (s.applyAll us).1.Arranged := by
  induction us generalizing s with
  | nil => exact h
  | cons u us ih => exact ih (h.apply u)

end Flotilla.Store
