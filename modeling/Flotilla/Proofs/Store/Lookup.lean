import Mathlib.Data.List.Nodup
import Flotilla.Proofs.Store.Order

/-! # What tables hold

A table is told by the record that it holds under each id. Adding records, patching one and
taking some out change what it holds under the ids that are named, and under no others. -/
namespace Flotilla.Store

open Flotilla.Record

/-! ## Ascending lists -/

section Place

variable {β κ : Type} [DecidableEq κ]

/-- Among elements with distinct keys, the one found under the key of an element is that
element. -/
theorem find?_of_mem {key : β → κ} {xs : List β} (distinct : (xs.map key).Nodup) {x : β}
    (h : x ∈ xs) : xs.find? (fun r => key r == key x) = some x := by
  have present : (xs.find? fun r => key r == key x).isSome :=
    List.find?_isSome.mpr ⟨x, h, beq_self_eq_true _⟩
  obtain ⟨y, hy⟩ := Option.isSome_iff_exists.mp present
  have sameKey : key y = key x := by simpa using List.find?_some hy
  rw [hy, List.inj_on_of_nodup_map distinct (List.mem_of_find?_eq_some hy) h sameKey]

end Place

/-! ## Tables -/

variable {α : Type} [Keyed α]

namespace Table

theorem mem_rows_iff {t : Table α} {r : α} : r ∈ t.rows ↔ t.get? (Keyed.key r) = some r := by
  refine ⟨fun hr => ?_, fun h => List.mem_of_find?_eq_some h⟩
  have distinct : (t.rows.map Keyed.key).Nodup :=
    List.pairwise_map.mpr (t.ascending.imp Int64.ne_of_lt)
  exact find?_of_mem distinct hr

/-- Tables that hold the same under each id are equal. -/
theorem ext_get? {t u : Table α} (h : ∀ id, t.get? id = u.get? id) : t = u := by
  have asymm : ∀ a b : α, Keyed.key a < Keyed.key b → Keyed.key b < Keyed.key a → a = b :=
    fun a b hab hba => absurd hba (Int64.lt_asymm hab)
  have nodup : ∀ v : Table α, v.rows.Nodup := fun v =>
    v.ascending.imp fun {a b} hab same => Int64.ne_of_lt hab (congrArg Keyed.key same)
  have perm : t.rows.Perm u.rows :=
    (List.perm_ext_iff_of_nodup (nodup t) (nodup u)).mpr fun r => by
      rw [mem_rows_iff, mem_rows_iff, h]
  exact Table.ext (perm.eq_of_pairwise (fun a b _ _ => asymm a b) t.ascending u.ascending)

end Table

/-- The last of some records with an id. -/
def lastOf? (rs : List α) (id : Int64) : Option α := rs.reverse.find? fun r => Keyed.key r == id

theorem lastOf?_cons (r : α) (rs : List α) (id : Int64) :
    lastOf? (r :: rs) id = (lastOf? rs id).or (if Keyed.key r = id then some r else none) := by
  rw [lastOf?, List.reverse_cons, List.find?_append, find?_key_cons]
  rfl

@[simp] theorem get?_insertAll (t : Table α) (rs : List α) (id : Int64) :
    (t.insertAll rs).get? id = (lastOf? rs id).elim (t.get? id) some := by
  induction rs generalizing t with
  | nil => rfl
  | cons r rs ih =>
    show ((t.insert r).insertAll rs).get? id = _
    rw [ih, Table.get?_insert, lastOf?_cons]
    cases lastOf? rs id with
    | none => split <;> rfl
    | some last => rfl

@[simp] theorem get?_removeAll (t : Table α) (ids : List Int64) (k : Int64) :
    (removeAll t ids).1.get? k = if k ∈ ids then none else t.get? k := by
  induction ids generalizing t with
  | nil => rfl
  | cons id ids ih =>
    show (removeAll (t.erase id) ids).1.get? k = _
    rw [ih]
    by_cases here : k = id <;> by_cases later : k ∈ ids <;> simp [here, later]

end Flotilla.Store
