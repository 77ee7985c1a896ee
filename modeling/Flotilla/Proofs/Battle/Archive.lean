import Mathlib.Data.List.Nodup
import Mathlib.Data.List.Perm.Basic
import Flotilla.Battle.Archive

/-! # The archive from delivery to delivery

The queue of ids and the battles by id always name the same ids, each once, and never
more than the capacity. From this follows what one delivery can do: replace a battle,
take a free place, or push the oldest battle out, and never two of these. -/
namespace Flotilla.Battle

/-! ## Battles by id -/

namespace Shelf

theorem get?_of_erase {s : Shelf} {id k : String} {a : Archived} (h : (s.erase id).get? k = some a) :
    s.get? k = some a := by
  simp only [get?_erase] at h
  split at h
  · cases h
  · exact h

theorem mem_ids {s : Shelf} {id : String} :
    id ∈ s.entries.map (·.1) ↔ (s.get? id).isSome := by
  rw [get?, Option.isSome_map, List.find?_isSome]
  simp

theorem erase_of_absent {s : Shelf} {id : String} (h : s.get? id = none) :
    (s.erase id).entries = s.entries := by
  refine List.filter_eq_self.mpr fun e he => ?_
  have other := List.find?_eq_none.mp (Option.map_eq_none_iff.mp h) e he
  simpa using other

theorem perm_of_find? {entries : List (String × Archived)} (distinct : (entries.map (·.1)).Nodup)
    {id : String} {e : String × Archived} (h : (entries.find? fun x => x.1 == id) = some e) :
    entries.Perm (e :: entries.filter fun x => x.1 != id) := by
  induction entries with
  | nil => cases h
  | cons x xs ih =>
    obtain ⟨fresh, distinct⟩ := List.nodup_cons.mp distinct
    by_cases hx : x.1 = id
    · have first : x = e := by simpa [hx] using h
      have others : xs.filter (fun y => y.1 != id) = xs := by
        refine List.filter_eq_self.mpr fun y hy => ?_
        have ne : y.1 ≠ id := fun hid => fresh (List.mem_map.mpr ⟨y, hy, hid.trans hx.symm⟩)
        simpa using ne
      rw [List.filter_cons_of_neg (by simpa using hx), others, first]
    · rw [List.find?_cons_of_neg (by simpa using hx)] at h
      rw [List.filter_cons_of_pos (by simpa using hx)]
      exact ((ih distinct h).cons x).trans (List.Perm.swap e x _)

theorem perm_erase (s : Shelf) (id : String) :
    (s.entries.map (·.2)).Perm ((s.get? id).toList ++ (s.erase id).entries.map (·.2)) := by
  cases h : s.get? id with
  | none => rw [erase_of_absent h, Option.toList_none, List.nil_append]
  | some a =>
    obtain ⟨e, he, rfl⟩ := Option.map_eq_some_iff.mp h
    exact (perm_of_find? s.distinct he).map _

end Shelf

/-! ## The queue and the battles in step -/

namespace Archive

/-- The queue names the battles held, each once, and each battle is held under its own id. -/
structure InStep (a : Archive) : Prop where
  distinct : a.order.Nodup
  held : ∀ id, id ∈ a.order ↔ (a.shelf.get? id).isSome
  named : ∀ id e, a.shelf.get? id = some e → e.id = id

theorem InStep.without {a : Archive} (h : a.InStep) (id : String) :
    InStep ⟨a.capacity, a.order.filter (· != id), a.shelf.erase id⟩ where
  distinct := h.distinct.sublist List.filter_sublist
  held k := by
    by_cases hk : k = id <;> simp [hk, h.held]
  named k e hk := h.named k e (Shelf.get?_of_erase hk)

theorem InStep.enter {a : Archive} (h : a.InStep) {e : Archived} (fresh : e.id ∉ a.order) :
    (a.enter e).InStep where
  distinct := by
    refine List.nodup_append.mpr ⟨h.distinct, List.nodup_singleton _, fun k hk l hl => ?_⟩
    rw [List.mem_singleton.mp hl]
    rintro rfl
    exact fresh hk
  held k := by
    by_cases hk : k = e.id <;> simp [Archive.enter, hk, h.held]
  named k e' hk := by
    simp only [Archive.enter, Shelf.get?_insert] at hk
    split at hk
    · rename_i same
      cases hk
      exact same.symm
    · exact h.named k e' hk

theorem withdraw_of_held {a : Archive} {id : String} {old : Archived}
    (h : a.shelf.get? id = some old) :
    a.withdraw id = (⟨a.capacity, a.order.filter (· != id), a.shelf.erase id⟩, some old.battle) := by
  rw [withdraw, h]

theorem withdraw_of_absent {a : Archive} {id : String} (h : a.shelf.get? id = none) :
    a.withdraw id = (a, none) := by
  rw [withdraw, h]

theorem InStep.withdraw {a : Archive} (h : a.InStep) (id : String) :
    (a.withdraw id).1.InStep ∧ id ∉ (a.withdraw id).1.order := by
  cases hold : a.shelf.get? id with
  | some old =>
    rw [withdraw_of_held hold]
    exact ⟨h.without id, by simp⟩
  | none =>
    rw [withdraw_of_absent hold]
    refine ⟨h, fun known => ?_⟩
    have some_ := (h.held id).mp known
    rw [hold] at some_
    cases some_

theorem trim_of_le {a : Archive} (h : a.order.length ≤ a.capacity) : a.trim = (a, none) :=
  if_neg (Nat.not_lt.mpr h)

theorem trim_of_lt {a : Archive} {oldest : String} {rest : List String}
    (ho : a.order = oldest :: rest) (h : a.capacity < a.order.length) :
    a.trim = (⟨a.capacity, rest, a.shelf.erase oldest⟩, a.get? oldest) := by
  rw [trim, if_pos h, ho]

theorem InStep.trim {a : Archive} (h : a.InStep) : a.trim.1.InStep := by
  rcases Nat.lt_or_ge a.capacity a.order.length with exceeds | fits
  · obtain ⟨oldest, rest, ho⟩ := List.exists_cons_of_length_pos (Nat.zero_lt_of_lt exceeds)
    have distinct := ho ▸ h.distinct
    have others : a.order.filter (· != oldest) = rest := by
      rw [ho, List.filter_cons_of_neg (by simp)]
      refine List.filter_eq_self.mpr fun id hid => ?_
      have ne : id ≠ oldest := fun same => (List.nodup_cons.mp distinct).1 (same ▸ hid)
      simpa using ne
    have without := h.without oldest
    rw [others] at without
    rw [trim_of_lt ho exceeds]
    exact without
  · rw [trim_of_le fits]
    exact h

theorem insert_eq (a : Archive) (e : Archived) :
    a.insert e.battle e.receivedAt
      = ((((a.withdraw e.id).1.enter e).trim).1,
        (a.withdraw e.id).2.or (((a.withdraw e.id).1.enter e).trim).2) := rfl

theorem InStep.insert {a : Archive} (h : a.InStep) (e : Archived) :
    (a.insert e.battle e.receivedAt).1.InStep := by
  obtain ⟨withdrawn, fresh⟩ := h.withdraw e.id
  exact (withdrawn.enter fresh).trim

/-- The queue and the battles are in step, and there are no more than the capacity. -/
structure Sound (a : Archive) : Prop extends a.InStep where
  room : 0 < a.capacity
  fits : a.order.length ≤ a.capacity

theorem sound_ofCapacity (c : Nat) : (ofCapacity c).Sound where
  room := Nat.le_max_right c 1
  fits := Nat.zero_le _
  distinct := .nil
  held id := by simp [ofCapacity]
  named id e h := by simp [ofCapacity] at h

@[simp] theorem capacity_withdraw (a : Archive) (id : String) :
    (a.withdraw id).1.capacity = a.capacity := by
  unfold withdraw
  split <;> rfl

@[simp] theorem capacity_trim (a : Archive) : a.trim.1.capacity = a.capacity := by
  unfold trim
  split
  · split <;> rfl
  · rfl

@[simp] theorem capacity_enter (a : Archive) (e : Archived) :
    (a.enter e).capacity = a.capacity := rfl

@[simp] theorem capacity_insert (a : Archive) (e : Archived) :
    (a.insert e.battle e.receivedAt).1.capacity = a.capacity := by
  simp [insert_eq]

@[simp] theorem length_enter (a : Archive) (e : Archived) :
    (a.enter e).order.length = a.order.length + 1 :=
  List.length_append

theorem length_withdraw_le (a : Archive) (id : String) :
    (a.withdraw id).1.order.length ≤ a.order.length := by
  unfold withdraw
  split
  · exact Nat.le_refl _
  · exact List.length_filter_le _ _

/-- An id that was known leaves the queue before it joins it again. -/
theorem InStep.length_withdraw_lt {a : Archive} (h : a.InStep) {id : String} {old : Archived}
    (hold : a.shelf.get? id = some old) : (a.withdraw id).1.order.length < a.order.length := by
  have known : id ∈ a.order := (h.held id).mpr (by rw [hold]; rfl)
  rw [withdraw_of_held hold]
  exact List.length_filter_lt_length_iff_exists.mpr ⟨id, known, by simp⟩

theorem length_trim_le {a : Archive} (h : a.order.length ≤ a.capacity + 1) :
    a.trim.1.order.length ≤ a.capacity := by
  rcases Nat.lt_or_ge a.capacity a.order.length with exceeds | fits
  · obtain ⟨oldest, rest, ho⟩ := List.exists_cons_of_length_pos (Nat.zero_lt_of_lt exceeds)
    rw [trim_of_lt ho exceeds]
    rw [ho] at h
    exact Nat.le_of_succ_le_succ h
  · rw [trim_of_le fits]
    exact fits

/-- A delivery keeps an archive sound. -/
theorem Sound.insert {a : Archive} (h : a.Sound) (e : Archived) :
    (a.insert e.battle e.receivedAt).1.Sound := by
  refine ⟨h.toInStep.insert e, by simpa using h.room, ?_⟩
  have withdrawn := a.length_withdraw_le e.id
  have fits := h.fits
  have full : ((a.withdraw e.id).1.enter e).order.length
      ≤ ((a.withdraw e.id).1.enter e).capacity + 1 := by
    simp only [length_enter, capacity_enter, capacity_withdraw]
    omega
  simpa [insert_eq] using length_trim_le full

/-- A battle that replaces another one pushes none out. -/
theorem Sound.trim_of_held {a : Archive} (h : a.Sound) {e old : Archived}
    (hold : a.shelf.get? e.id = some old) :
    ((a.withdraw e.id).1.enter e).trim = ((a.withdraw e.id).1.enter e, none) := by
  have withdrawn := h.length_withdraw_lt hold
  have fits := h.fits
  refine trim_of_le ?_
  simp only [length_enter, capacity_enter, capacity_withdraw]
  omega

/-- What a delivery does: it replaces the battle with its id, takes a free place, or pushes
the oldest battle out. -/
theorem Sound.insert_cases {a : Archive} (h : a.Sound) (e : Archived) :
    (∃ old, a.shelf.get? e.id = some old ∧
      a.insert e.battle e.receivedAt
        = (⟨a.capacity, a.order.filter (· != e.id) ++ [e.id], (a.shelf.erase e.id).insert e.id e⟩,
          some old.battle)) ∨
    (a.shelf.get? e.id = none ∧ a.order.length < a.capacity ∧
      a.insert e.battle e.receivedAt
        = (⟨a.capacity, a.order ++ [e.id], a.shelf.insert e.id e⟩, none)) ∨
    (a.shelf.get? e.id = none ∧ a.order.length = a.capacity ∧
      ∃ oldest rest first, a.order = oldest :: rest ∧ a.shelf.get? oldest = some first ∧
        a.insert e.battle e.receivedAt
          = (⟨a.capacity, rest ++ [e.id], (a.shelf.insert e.id e).erase oldest⟩,
            some first.battle)) := by
  rw [insert_eq]
  cases hold : a.shelf.get? e.id with
  | some old =>
    rw [h.trim_of_held hold, withdraw_of_held hold]
    exact .inl ⟨old, rfl, rfl⟩
  | none =>
    refine .inr ?_
    rw [withdraw_of_absent hold]
    rcases Nat.lt_or_eq_of_le h.fits with free | full
    · have fits : (a.enter e).order.length ≤ (a.enter e).capacity := by
        simpa using Nat.succ_le_of_lt free
      rw [trim_of_le fits]
      exact .inl ⟨rfl, free, rfl⟩
    · obtain ⟨oldest, rest, ho⟩ := List.exists_cons_of_length_pos (full ▸ h.room)
      have first := (h.held oldest).mp (ho ▸ List.mem_cons_self)
      obtain ⟨first, hfirst⟩ := Option.isSome_iff_exists.mp first
      have other : oldest ≠ e.id := fun same => by rw [same, hold] at hfirst; cases hfirst
      have out : (a.enter e).get? oldest = some first.battle := by
        simp [Archive.get?, enter, other, hfirst]
      have queue : (a.enter e).order = oldest :: (rest ++ [e.id]) := by
        show a.order ++ [e.id] = _
        rw [ho, List.cons_append]
      have exceeds : (a.enter e).capacity < (a.enter e).order.length := by simp [full]
      rw [trim_of_lt queue exceeds, out]
      exact .inr ⟨rfl, full, oldest, rest, first, ho, hfirst, rfl⟩

/-- What was delivered last is held, since there is always room for one. -/
theorem Sound.get?_insert {a : Archive} (h : a.Sound) (e : Archived) :
    (a.insert e.battle e.receivedAt).1.get? e.id = some e.battle := by
  rcases h.insert_cases e with ⟨old, _, after⟩ | ⟨_, _, after⟩ |
    ⟨absent, _, oldest, _, first, _, hfirst, after⟩
  · simp [after, get?]
  · simp [after, get?]
  · have other : e.id ≠ oldest := fun same => by rw [← same, absent] at hfirst; cases hfirst
    simp [after, get?, other]

/-! ## What is read off an archive -/

theorem InStep.perm_ids {a : Archive} (h : a.InStep) :
    a.order.Perm (a.shelf.entries.map (·.1)) := by
  refine (List.perm_ext_iff_of_nodup h.distinct a.shelf.distinct).mpr fun id => ?_
  rw [h.held, Shelf.mem_ids]

theorem InStep.size_eq {a : Archive} (h : a.InStep) : a.size = a.order.length := by
  rw [h.perm_ids.length_eq, List.length_map]
  rfl

theorem InStep.filterMap_get? {a : Archive} (h : a.InStep) {ids : List String}
    (held : ∀ id ∈ ids, (a.shelf.get? id).isSome) :
    (ids.filterMap a.shelf.get?).map some = ids.map a.shelf.get? ∧
      (ids.filterMap a.shelf.get?).map Archived.id = ids := by
  induction ids with
  | nil => exact ⟨rfl, rfl⟩
  | cons id ids ih =>
    obtain ⟨first, rest⟩ := List.forall_mem_cons.mp held
    obtain ⟨e, he⟩ := Option.isSome_iff_exists.mp first
    obtain ⟨found, named⟩ := ih rest
    rw [List.filterMap_cons_some he, List.map_cons, List.map_cons, List.map_cons, found, named, he,
      h.named id e he]
    exact ⟨rfl, rfl⟩

/-- The entries are those of the ids in the queue, one for each. -/
theorem InStep.entries_eq {a : Archive} (h : a.InStep) :
    a.entries.map some = a.order.reverse.map a.shelf.get? ∧
      a.entries.map Archived.id = a.order.reverse :=
  h.filterMap_get? fun id hid => (h.held id).mp (List.mem_reverse.mp hid)

/-! ## Runs -/

/-- The archive after deliveries, with the battles that it gave back on the way. -/
def run (a : Archive) : List Archived → Archive × List Battle
  | [] => (a, [])
  | e :: es =>
    let (a, given) := a.insert e.battle e.receivedAt
    let (a, rest) := a.run es
    (a, given.toList ++ rest)

theorem run_cons (a : Archive) (e : Archived) (es : List Archived) :
    a.run (e :: es)
      = (((a.insert e.battle e.receivedAt).1.run es).1,
        (a.insert e.battle e.receivedAt).2.toList ++ ((a.insert e.battle e.receivedAt).1.run es).2) :=
  rfl

theorem Sound.run {a : Archive} (h : a.Sound) (es : List Archived) : (a.run es).1.Sound := by
  induction es generalizing a with
  | nil => exact h
  | cons e es ih => exact ih (h.insert e)

@[simp] theorem capacity_run (a : Archive) (es : List Archived) :
    (a.run es).1.capacity = a.capacity := by
  induction es generalizing a with
  | nil => rfl
  | cons e es ih => simp [run_cons, ih]

end Archive

end Flotilla.Battle
