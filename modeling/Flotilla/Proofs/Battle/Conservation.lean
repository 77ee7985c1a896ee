import Flotilla.Proofs.Battle.Archive

/-! # The archive loses no battle

A delivery gives back at most one battle: the one with its id, or else the oldest one of
a full archive. So the battles held and the battles given back are together just the
battles delivered, each as often as it came. -/
namespace Flotilla.Battle.Archive

open scoped List

/-- The battles held. -/
def stored (a : Archive) : List Battle :=
  a.shelf.entries.map fun e => e.2.battle

/-- The battle received first of those held. -/
def oldest? (a : Archive) : Option Battle :=
  a.entries.getLast?.map (·.battle)

theorem stored_enter {a : Archive} {e : Archived} (fresh : a.shelf.get? e.id = none) :
    (a.enter e).stored = e.battle :: a.stored := by
  show e.battle :: (a.shelf.erase e.id).entries.map _ = _
  rw [Shelf.erase_of_absent fresh]
  rfl

theorem perm_stored_erase (a : Archive) (id : String) (order : List String) :
    a.stored.Perm ((a.get? id).toList ++ stored ⟨a.capacity, order, a.shelf.erase id⟩) := by
  have parts := (a.shelf.perm_erase id).map (·.battle)
  rw [List.map_append, List.map_map, List.map_map] at parts
  have taken : (a.get? id).toList = (a.shelf.get? id).toList.map (·.battle) := by
    unfold get?
    cases a.shelf.get? id <;> rfl
  rw [taken]
  exact parts

theorem perm_withdraw (a : Archive) (id : String) :
    a.stored.Perm ((a.withdraw id).2.toList ++ (a.withdraw id).1.stored) := by
  cases hold : a.shelf.get? id with
  | some old =>
    have parts := a.perm_stored_erase id (a.order.filter (· != id))
    rw [get?, hold] at parts
    rw [withdraw_of_held hold]
    exact parts
  | none =>
    rw [withdraw_of_absent hold]
    exact .refl _

theorem perm_trim (a : Archive) : a.stored.Perm (a.trim.2.toList ++ a.trim.1.stored) := by
  rcases Nat.lt_or_ge a.capacity a.order.length with exceeds | fits
  · obtain ⟨oldest, rest, ho⟩ := List.exists_cons_of_length_pos (Nat.zero_lt_of_lt exceeds)
    rw [trim_of_lt ho exceeds]
    exact a.perm_stored_erase oldest rest
  · rw [trim_of_le fits]
    exact .refl _

/-- One of the two battles that a delivery could give back is absent. -/
theorem Sound.one_given {a : Archive} (h : a.Sound) (e : Archived) :
    (a.withdraw e.id).2 = none ∨ ((a.withdraw e.id).1.enter e).trim.2 = none := by
  cases hold : a.shelf.get? e.id with
  | some old => exact .inr (by rw [h.trim_of_held hold])
  | none => exact .inl (by rw [withdraw_of_absent hold])

/-- What was held, with the new battle, is what is held then, with the battle given back. -/
theorem Sound.perm_insert {a : Archive} (h : a.Sound) (e : Archived) :
    (e.battle :: a.stored).Perm
      ((a.insert e.battle e.receivedAt).2.toList ++ (a.insert e.battle e.receivedAt).1.stored) := by
  obtain ⟨withdrawn, absent⟩ := h.toInStep.withdraw e.id
  have fresh : (a.withdraw e.id).1.shelf.get? e.id = none := by
    rwa [withdrawn.held, Option.not_isSome_iff_eq_none] at absent
  have first := a.perm_withdraw e.id
  have second := ((a.withdraw e.id).1.enter e).perm_trim
  rw [stored_enter fresh] at second
  rw [insert_eq]
  rcases h.one_given e with hnone | hnone
  · rw [hnone, Option.toList_none, List.nil_append] at first
    rw [hnone, Option.none_or]
    exact (first.cons e.battle).trans second
  · rw [hnone, Option.toList_none, List.nil_append] at second
    rw [hnone, Option.or_none]
    exact (first.cons e.battle).trans (List.perm_middle.symm.trans (second.append_left _))

theorem Sound.perm_run {a : Archive} (h : a.Sound) (es : List Archived) :
    (es.map (·.battle) ++ a.stored).Perm ((a.run es).1.stored ++ (a.run es).2) := by
  induction es generalizing a with
  | nil =>
    show a.stored.Perm (a.stored ++ [])
    rw [List.append_nil]
  | cons e es ih =>
    let after := a.insert e.battle e.receivedAt
    let final := after.1.run es
    have first : (e.battle :: a.stored).Perm (after.2.toList ++ after.1.stored) := h.perm_insert e
    have rest : (es.map (·.battle) ++ after.1.stored).Perm (final.1.stored ++ final.2) :=
      ih (h.insert e)
    calc e.battle :: (es.map (·.battle) ++ a.stored)
      _ ~ es.map (·.battle) ++ e.battle :: a.stored := List.perm_middle.symm
      _ ~ es.map (·.battle) ++ (after.2.toList ++ after.1.stored) := first.append_left _
      _ ~ after.2.toList ++ (es.map (·.battle) ++ after.1.stored) := List.perm_append_comm_assoc _ _ _
      _ ~ after.2.toList ++ (final.1.stored ++ final.2) := rest.append_left _
      _ ~ final.1.stored ++ (after.2.toList ++ final.2) := List.perm_append_comm_assoc _ _ _

theorem InStep.oldest?_eq {a : Archive} (h : a.InStep) {oldest : String} {rest : List String}
    (ho : a.order = oldest :: rest) : a.oldest? = a.get? oldest := by
  have found : a.entries.getLast?.map some = some (a.shelf.get? oldest) := by
    rw [← List.getLast?_map, h.entries_eq.1, ho, List.reverse_cons, List.map_append,
      List.map_singleton, List.getLast?_concat]
  cases hlast : a.entries.getLast? with
  | none =>
    rw [hlast] at found
    cases found
  | some e =>
    rw [hlast] at found
    rw [oldest?, get?, hlast, ← Option.some.inj found]

/-- What a delivery gives back: the battle with its id, or else the oldest battle of a full
archive. -/
theorem Sound.given_eq {a : Archive} (h : a.Sound) (e : Archived) :
    (a.insert e.battle e.receivedAt).2
      = (a.get? e.id).or (if a.size = a.capacity then a.oldest? else none) := by
  have size : a.size = a.order.length := h.size_eq
  unfold get?
  rcases h.insert_cases e with
    ⟨old, hold, after⟩ | ⟨hnone, free, after⟩ | ⟨hnone, full, oldest, rest, first, ho, hfirst, after⟩
  · rw [after, hold]
    rfl
  · rw [after, hnone, if_neg (size ▸ Nat.ne_of_lt free)]
    rfl
  · rw [after, hnone, if_pos (size.trans full), h.oldest?_eq ho, get?, hfirst]
    rfl

/-- Every battle delivered is either held or was given back. A delivery never gives up two
battles: it gives back the one with its id when there was one, otherwise the oldest one when
the archive was full, and otherwise none. -/
theorem run_conserves (c : Nat) (ds : List Archived) :
    let a := ((ofCapacity c).run ds).1
    (ds.map (·.battle)).Perm (a.stored ++ ((ofCapacity c).run ds).2) ∧
      ∀ e : Archived,
        ((a.withdraw e.id).2 = none ∨ ((a.withdraw e.id).1.enter e).trim.2 = none) ∧
        (a.insert e.battle e.receivedAt).2
          = (a.get? e.id).or (if a.size = a.capacity then a.oldest? else none) ∧
        (a.size = a.capacity → a.oldest?.isSome) := by
  intro a
  have sound : a.Sound := (sound_ofCapacity c).run ds
  have parts := (sound_ofCapacity c).perm_run ds
  have nothing : (ofCapacity c).stored = [] := rfl
  rw [nothing, List.append_nil] at parts
  refine ⟨parts, fun e => ⟨sound.one_given e, sound.given_eq e, fun full => ?_⟩⟩
  have size : a.size = a.order.length := sound.size_eq
  obtain ⟨oldest, rest, ho⟩ := List.exists_cons_of_length_pos (size ▸ full ▸ sound.room)
  have held := (sound.held oldest).mp (ho ▸ List.mem_cons_self)
  rw [sound.oldest?_eq ho, get?, Option.isSome_map]
  exact held

end Flotilla.Battle.Archive
