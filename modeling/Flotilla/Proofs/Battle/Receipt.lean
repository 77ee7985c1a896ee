import Flotilla.Proofs.Battle.Archive

/-! # Times of receipt

An archive keeps the time at which each battle was received, and does nothing with it: archives
that hold the same battles in the same order still do after the same delivery, at whatever times
it comes, and give the same battle back. -/
namespace Flotilla.Battle

/-- The battles under their ids, without the times of receipt. -/
def Shelf.battles (s : Shelf) : List (String × Battle) :=
  s.entries.map fun e => (e.1, e.2.battle)

namespace Shelf

@[simp] theorem battles_erase (s : Shelf) (id : String) :
    (s.erase id).battles = s.battles.filter fun e => e.1 != id := by
  rw [battles, battles, List.filter_map]
  rfl

@[simp] theorem battles_insert (s : Shelf) (id : String) (a : Archived) :
    (s.insert id a).battles = (id, a.battle) :: (s.erase id).battles := rfl

theorem map_get? (s : Shelf) (id : String) :
    (s.get? id).map (·.battle) = (s.battles.find? fun e => e.1 == id).map (·.2) := by
  rw [get?, battles, List.find?_map, Option.map_map, Option.map_map]
  rfl

end Shelf

namespace Archive

/-- Archives that hold the same battles in the same order, times of receipt aside. -/
structure Alike (a b : Archive) : Prop where
  capacity : a.capacity = b.capacity
  order : a.order = b.order
  battles : a.shelf.battles = b.shelf.battles

namespace Alike

variable {a b c : Archive}

theorem refl (a : Archive) : a.Alike a := ⟨rfl, rfl, rfl⟩

theorem symm (h : a.Alike b) : b.Alike a := ⟨h.capacity.symm, h.order.symm, h.battles.symm⟩

theorem trans (h : a.Alike b) (h' : b.Alike c) : a.Alike c :=
  ⟨h.capacity.trans h'.capacity, h.order.trans h'.order, h.battles.trans h'.battles⟩

theorem get?_eq (h : a.Alike b) (id : String) : a.get? id = b.get? id := by
  rw [get?, get?, Shelf.map_get?, Shelf.map_get?, h.battles]

theorem erase (h : a.Alike b) (order : List String) (id : String) :
    Alike ⟨a.capacity, order, a.shelf.erase id⟩ ⟨b.capacity, order, b.shelf.erase id⟩ where
  capacity := h.capacity
  order := rfl
  battles := by simp [h.battles]

theorem withdraw (h : a.Alike b) (id : String) :
    (a.withdraw id).1.Alike (b.withdraw id).1 ∧ (a.withdraw id).2 = (b.withdraw id).2 := by
  have same := h.get?_eq id
  unfold get? at same
  cases ha : a.shelf.get? id with
  | none =>
    rw [ha, Option.map_none] at same
    rw [withdraw_of_absent ha, withdraw_of_absent (Option.map_eq_none_iff.mp same.symm)]
    exact ⟨h, rfl⟩
  | some old =>
    rw [ha, Option.map_some] at same
    obtain ⟨other, hb, sameBattle⟩ := Option.map_eq_some_iff.mp same.symm
    rw [withdraw_of_held ha, withdraw_of_held hb, h.order]
    exact ⟨h.erase _ id, congrArg some sameBattle.symm⟩

theorem enter (h : a.Alike b) {e f : Archived} (same : e.battle = f.battle) :
    (a.enter e).Alike (b.enter f) where
  capacity := h.capacity
  order := by simp [Archive.enter, Archived.id, h.order, same]
  battles := by simp [Archive.enter, Archived.id, h.battles, same]

theorem trim (h : a.Alike b) : a.trim.1.Alike b.trim.1 ∧ a.trim.2 = b.trim.2 := by
  rcases Nat.lt_or_ge a.capacity a.order.length with exceeds | fits
  · obtain ⟨oldest, rest, ho⟩ := List.exists_cons_of_length_pos (Nat.zero_lt_of_lt exceeds)
    have exceeds' := exceeds
    rw [h.capacity, h.order] at exceeds'
    rw [trim_of_lt ho exceeds, trim_of_lt (h.order ▸ ho) exceeds']
    exact ⟨h.erase rest oldest, h.get?_eq oldest⟩
  · have fits' := fits
    rw [h.capacity, h.order] at fits'
    rw [trim_of_le fits, trim_of_le fits']
    exact ⟨h, rfl⟩

/-- Deliveries of one battle at two times leave archives alike, and give the same battle back. -/
theorem insert (h : a.Alike b) (battle : Battle) (now later : Instant) :
    (a.insert battle now).1.Alike (b.insert battle later).1 ∧
      (a.insert battle now).2 = (b.insert battle later).2 := by
  let e : Archived := ⟨now, battle⟩
  let f : Archived := ⟨later, battle⟩
  obtain ⟨withdrawn, replaced⟩ := h.withdraw battle.id
  obtain ⟨trimmed, evicted⟩ := (withdrawn.enter (e := e) (f := f) rfl).trim
  refine ⟨trimmed, ?_⟩
  calc (a.insert e.battle e.receivedAt).2
      = (a.withdraw battle.id).2.or ((a.withdraw battle.id).1.enter e).trim.2 := by
        rw [insert_eq]; rfl
    _ = (b.withdraw battle.id).2.or ((b.withdraw battle.id).1.enter f).trim.2 := by
        rw [replaced, evicted]
    _ = (b.insert f.battle f.receivedAt).2 := by rw [insert_eq]; rfl

theorem map_entries (h : a.Alike b) :
    a.entries.map (·.battle) = b.entries.map (·.battle) := by
  have read : ∀ c : Archive, c.entries.map (·.battle) = c.order.reverse.filterMap c.get? :=
    fun c => List.map_filterMap
  rw [read, read, h.order]
  exact List.filterMap_congr fun id _ => h.get?_eq id

end Alike

end Archive

end Flotilla.Battle
