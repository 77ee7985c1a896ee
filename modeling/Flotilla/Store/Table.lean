/-! # Tables of records

A table holds records in ascending order of their ids, at most one for each id. The
order is part of the type, so two tables are equal when they hold the same records,
whatever the order in which these came in. -/
namespace Flotilla.Store

/-- Records that carry their own id. -/
class Keyed (α : Type) where
  key : α → Int64

section Place

variable {κ : Type} [DecidableEq κ]

theorem find?_key_cons {key : α → κ} (x : α) (xs : List α) (k : κ) :
    (x :: xs).find? (fun r => key r == k)
      = if key x = k then some x else xs.find? fun r => key r == k := by
  rw [List.find?_cons]
  cases h : key x == k <;> simp_all

variable [LT κ] [DecidableLT κ]

/-- Puts an element into a list in ascending order of keys, in place of an element with
the same key. -/
def place (key : α → κ) (a : α) : List α → List α
  | [] => [a]
  | x :: xs =>
    if key a < key x then a :: x :: xs
    else if key a = key x then a :: xs
    else x :: place key a xs

/-- A list in strictly ascending order of keys. -/
def Ascending (key : α → κ) (xs : List α) : Prop :=
  xs.Pairwise fun a b => key a < key b

theorem mem_place {key : α → κ} {a b : α} {xs : List α} (h : b ∈ place key a xs) :
    b = a ∨ b ∈ xs := by
  induction xs with
  | nil => exact .inl (by simpa [place] using h)
  | cons x xs ih =>
    simp only [place] at h
    split at h
    · simpa using h
    · split at h
      · rcases List.mem_cons.mp h with h | h
        · exact .inl h
        · exact .inr (List.mem_cons_of_mem _ h)
      · rcases List.mem_cons.mp h with h | h
        · exact .inr (h ▸ List.mem_cons_self)
        · exact (ih h).imp id (List.mem_cons_of_mem _)

theorem Ascending.place [Trans (α := κ) (· < ·) (· < ·) (· < ·)]
    [Std.Trichotomous (α := κ) (· < ·)] {key : α → κ} {xs : List α} (h : Ascending key xs)
    (a : α) : Ascending key (place key a xs) := by
  induction xs with
  | nil => exact List.pairwise_singleton _ _
  | cons x xs ih =>
    obtain ⟨hx, hxs⟩ := List.pairwise_cons.mp h
    simp only [Store.place]
    split
    · rename_i hlt
      refine List.pairwise_cons.mpr ⟨fun b hb => ?_, h⟩
      rcases List.mem_cons.mp hb with rfl | hb
      · exact hlt
      · exact Std.lt_trans hlt (hx b hb)
    · split
      · rename_i heq
        exact List.pairwise_cons.mpr ⟨fun b hb => heq ▸ hx b hb, hxs⟩
      · rename_i hlt hne
        refine List.pairwise_cons.mpr ⟨fun b hb => ?_, ih hxs⟩
        rcases mem_place hb with rfl | hb
        · have notAbove := mt (Std.Trichotomous.trichotomous (key b) (key x) hlt) hne
          exact Decidable.of_not_not notAbove
        · exact hx b hb

/-- The element found under a key is the one that was placed there last. -/
@[simp] theorem find?_place {key : α → κ} (a : α) (xs : List α) (k : κ) :
    (place key a xs).find? (fun r => key r == k)
      = if key a = k then some a else xs.find? fun r => key r == k := by
  induction xs with
  | nil => exact find?_key_cons a [] k
  | cons x xs ih =>
    unfold place
    split
    · exact find?_key_cons a _ k
    · split
      · rename_i same
        rw [find?_key_cons, find?_key_cons, ← same]
        split <;> rfl
      · rename_i other
        rw [find?_key_cons, find?_key_cons, ih]
        by_cases h : key x = k <;> simp_all

end Place

/-- Records in ascending order of their ids, at most one for each id. -/
structure Table (α : Type) [Keyed α] where
  rows : List α
  ascending : Ascending Keyed.key rows

namespace Table

variable {α : Type} [Keyed α]

def empty : Table α := ⟨[], .nil⟩

instance : Inhabited (Table α) := ⟨empty⟩

def get? (t : Table α) (id : Int64) : Option α :=
  t.rows.find? fun r => Keyed.key r == id

def contains (t : Table α) (id : Int64) : Bool :=
  (t.get? id).isSome

def size (t : Table α) : Nat := t.rows.length

/-- Adds a record, in place of one with the same id. -/
def insert (t : Table α) (r : α) : Table α :=
  ⟨place Keyed.key r t.rows, t.ascending.place r⟩

/-- Adds records in order, so that the last one of an id stays. -/
def insertAll (t : Table α) (rs : List α) : Table α :=
  rs.foldl insert t

def erase (t : Table α) (id : Int64) : Table α :=
  ⟨t.rows.filter fun r => Keyed.key r != id, t.ascending.filter _⟩

/-- The table of a list of records; the last one of an id stays. -/
def ofList (rs : List α) : Table α := empty.insertAll rs

theorem key_of_get? {t : Table α} {id : Int64} {r : α} (h : t.get? id = some r) :
    Keyed.key r = id := by
  simpa using List.find?_some h

@[simp] theorem get?_insert (t : Table α) (r : α) (id : Int64) :
    (t.insert r).get? id = if Keyed.key r = id then some r else t.get? id :=
  find?_place r t.rows id

@[simp] theorem get?_erase (t : Table α) (id k : Int64) :
    (t.erase id).get? k = if k = id then none else t.get? k := by
  rw [get?, erase, List.find?_filter]
  by_cases h : k = id
  · rw [if_pos h]
    refine List.find?_eq_none.mpr fun r _ => ?_
    simp [h]
  · rw [if_neg h]
    refine congrArg (t.rows.find? ·) (funext fun r => ?_)
    by_cases hr : Keyed.key r = k
    · simpa [hr] using h
    · simp [hr]

end Table

section Entries

variable {κ : Type} [DecidableEq κ]

/-- The value under a key of an ascending list of pairs. -/
def valueAt? (entries : List (κ × β)) (k : κ) : Option β :=
  (entries.find? fun e => e.1 == k).map (·.2)

/-- Puts a value under a key of an ascending list of pairs. -/
def putEntry [LT κ] [DecidableLT κ] (entries : List (κ × β)) (k : κ) (v : β) : List (κ × β) :=
  place (·.1) (k, v) entries

@[simp] theorem valueAt?_putEntry [LT κ] [DecidableLT κ] (entries : List (κ × β)) (k : κ) (v : β)
    (k' : κ) :
    valueAt? (putEntry entries k v) k' = if k = k' then some v else valueAt? entries k' := by
  rw [valueAt?, putEntry, find?_place]
  split <;> rfl

end Entries

end Flotilla.Store
