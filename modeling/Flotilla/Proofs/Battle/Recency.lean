import Flotilla.Proofs.Battle.Archive

/-! # The archive holds the latest deliveries

After any deliveries the archive holds the last delivery of each of the ids that came
last. The ids that came last are told from the history alone: read backwards, each id
where it comes first, as many as the capacity. -/
namespace Flotilla.Battle.Archive

/-! ## The ids that came last -/

theorem filter_eraseDups (p : String → Bool) (ids : List String) :
    (ids.filter p).eraseDups = ids.eraseDups.filter p := by
  -- by induction on the length, since each id is removed from all of the rest
  induction hn : ids.length using Nat.strongRecOn generalizing ids with
  | ind n ih =>
    cases ids with
    | nil => rfl
    | cons id ids =>
      have shorter : (ids.filter fun b => !b == id).length < n := by
        have := List.length_filter_le (fun b => !b == id) ids
        rw [← hn, List.length_cons]
        omega
      have rest := ih _ shorter (ids.filter fun b => !b == id) rfl
      rw [List.filter_filter] at rest
      by_cases hp : p id
      · rw [List.filter_cons_of_pos hp, List.eraseDups_cons, List.eraseDups_cons,
          List.filter_cons_of_pos hp, ← rest, List.filter_filter]
        simp only [Bool.and_comm]
      · have same : (ids.filter fun b => p b && !b == id) = ids.filter p := by
          refine List.filter_congr fun b _ => ?_
          by_cases hb : b = id
          · simp [hb, hp]
          · simp [hb]
        rw [List.filter_cons_of_neg hp, List.eraseDups_cons, List.filter_cons_of_neg hp, ← rest, same]

theorem nodup_eraseDups (ids : List String) : ids.eraseDups.Nodup := by
  induction hn : ids.length using Nat.strongRecOn generalizing ids with
  | ind n ih =>
    cases ids with
    | nil => exact .nil
    | cons id ids =>
      have shorter : (ids.filter fun b => !b == id).length < n := by
        have := List.length_filter_le (fun b => !b == id) ids
        rw [← hn, List.length_cons]
        omega
      rw [List.eraseDups_cons]
      exact List.nodup_cons.mpr ⟨by simp [List.mem_eraseDups], ih _ shorter _ rfl⟩

/-- Of a cut list without an element, as many as fit behind that element in the front are
those of the whole list. -/
theorem take_filter_take {ids : List String} (h : ids.Nodup) (id : String) (n : Nat) :
    ((ids.take (n + 1)).filter (· != id)).take n = (ids.filter (· != id)).take n := by
  induction ids generalizing n with
  | nil => simp
  | cons x xs ih =>
    obtain ⟨hx, hxs⟩ := List.nodup_cons.mp h
    rw [List.take_succ_cons]
    by_cases same : x = id
    · have others : ∀ {ys : List String}, ys ⊆ xs → ys.filter (· != id) = ys := by
        intro ys sub
        refine List.filter_eq_self.mpr fun y hy => ?_
        have ne : y ≠ id := fun hid => hx (same ▸ hid ▸ sub hy)
        simpa using ne
      rw [List.filter_cons_of_neg (by simpa using same), List.filter_cons_of_neg (by simpa using same),
        others (List.take_subset n xs), others (List.Subset.refl xs), List.take_take, Nat.min_self]
    · rw [List.filter_cons_of_pos (by simpa using same), List.filter_cons_of_pos (by simpa using same)]
      cases n with
      | zero => rfl
      | succ n => rw [List.take_succ_cons, List.take_succ_cons, ih hxs n]

/-- The ids of deliveries read backwards, each where it comes first, up to a number of them. -/
def recentIds (n : Nat) (ds : List Archived) : List String :=
  ((ds.reverse.map Archived.id).eraseDups).take n

/-- The last delivery of an id. -/
def lastOf? (ds : List Archived) (id : String) : Option Archived :=
  ds.reverse.find? fun e => e.id == id

theorem recentIds_concat {n : Nat} (hn : 0 < n) (ds : List Archived) (e : Archived) :
    recentIds n (ds ++ [e]) = (e.id :: (recentIds n ds).filter (· != e.id)).take n := by
  obtain ⟨n, rfl⟩ := Nat.exists_eq_succ_of_ne_zero (Nat.ne_of_gt hn)
  have cut := take_filter_take (nodup_eraseDups (ds.reverse.map Archived.id)) e.id n
  have front : (fun b => !b == e.id) = fun b => b != e.id := rfl
  rw [recentIds, recentIds, List.reverse_append, List.reverse_singleton, List.singleton_append,
    List.map_cons, List.eraseDups_cons, filter_eraseDups, front, List.take_succ_cons,
    List.take_succ_cons, ← cut]

@[simp] theorem lastOf?_concat (ds : List Archived) (e : Archived) (id : String) :
    lastOf? (ds ++ [e]) id = if id = e.id then some e else lastOf? ds id := by
  by_cases h : id = e.id
  · simp [lastOf?, h]
  · have skip : (e.id == id) = false := beq_eq_false_iff_ne.mpr (Ne.symm h)
    simp [lastOf?, h, skip]

/-! ## The archive against its history -/

/-- An archive that holds the last delivery of each of the ids that came last. -/
structure Caches (a : Archive) (ds : List Archived) : Prop where
  queue : a.order.reverse = recentIds a.capacity ds
  last : ∀ id e, a.shelf.get? id = some e → lastOf? ds id = some e

theorem caches_ofCapacity (c : Nat) : (ofCapacity c).Caches [] where
  queue := List.take_nil.symm
  last id e h := by simp [ofCapacity] at h

theorem Sound.order_insert {a : Archive} (h : a.Sound) (e : Archived) :
    (a.insert e.battle e.receivedAt).1.order.reverse
      = (e.id :: a.order.reverse.filter (· != e.id)).take a.capacity := by
  have inserted := h.insert e
  have fits := inserted.fits
  simp only [capacity_insert] at fits
  have unknown : a.shelf.get? e.id = none → a.order.reverse.filter (· != e.id) = a.order.reverse := by
    intro hnone
    refine List.filter_eq_self.mpr fun id hid => ?_
    have held := (h.held id).mp (List.mem_reverse.mp hid)
    have ne : id ≠ e.id := fun same => by rw [same, hnone] at held; cases held
    simpa using ne
  rcases h.insert_cases e with
    ⟨old, hold, after⟩ | ⟨hnone, free, after⟩ | ⟨hnone, full, oldest, rest, first, ho, -, after⟩
  · rw [after] at fits ⊢
    rw [List.take_of_length_le (by simpa using fits)]
    simp
  · rw [after] at fits ⊢
    rw [unknown hnone, List.take_of_length_le (by simpa using fits)]
    simp
  · -- the oldest id stands last in the reversed queue, just behind the places there are
    rw [after, unknown hnone, ← full, ho]
    rw [List.reverse_append, List.reverse_singleton, List.singleton_append, List.reverse_cons,
      List.length_cons, List.take_succ_cons, List.take_append_of_le_length (by simp),
      List.take_of_length_le (by simp)]

theorem get?_of_trim {a : Archive} {id : String} {e : Archived}
    (h : a.trim.1.shelf.get? id = some e) : a.shelf.get? id = some e := by
  unfold trim at h
  split at h
  · split at h
    · exact h
    · exact Shelf.get?_of_erase h
  · exact h

theorem get?_of_withdraw {a : Archive} {k id : String} {e : Archived}
    (h : (a.withdraw k).1.shelf.get? id = some e) : a.shelf.get? id = some e := by
  unfold withdraw at h
  split at h
  · exact h
  · exact Shelf.get?_of_erase h

theorem get?_of_insert {a : Archive} {id : String} {e e' : Archived}
    (h : (a.insert e.battle e.receivedAt).1.shelf.get? id = some e') :
    (if id = e.id then some e else a.shelf.get? id) = some e' := by
  have entered : ((a.withdraw e.id).1.shelf.insert e.id e).get? id = some e' := get?_of_trim h
  by_cases same : id = e.id
  · simpa [same] using entered
  · simp only [Shelf.get?_insert, same, if_false] at entered ⊢
    exact get?_of_withdraw entered

/-- A delivery to an archive that caches a history gives one that caches the longer history. -/
theorem Caches.insert {a : Archive} {ds : List Archived} (h : a.Caches ds) (sound : a.Sound)
    (e : Archived) : (a.insert e.battle e.receivedAt).1.Caches (ds ++ [e]) where
  queue := by
    rw [sound.order_insert, h.queue, capacity_insert, recentIds_concat sound.room]
  last id e' h' := by
    have entered := get?_of_insert h'
    by_cases same : id = e.id
    · simpa [same] using entered
    · simp only [lastOf?_concat, same, if_false] at entered ⊢
      exact h.last id e' entered

theorem Caches.run {a : Archive} {ds : List Archived} (h : a.Caches ds) (sound : a.Sound)
    (es : List Archived) : (a.run es).1.Caches (ds ++ es) := by
  induction es generalizing a ds with
  | nil => rw [List.append_nil]; exact h
  | cons e es ih =>
    rw [List.append_cons]
    exact ih (h.insert sound e) (sound.insert e)

theorem Caches.get?_eq {a : Archive} {ds : List Archived} (h : a.Caches ds) (inStep : a.InStep)
    (id : String) :
    a.shelf.get? id = if id ∈ recentIds a.capacity ds then lastOf? ds id else none := by
  have recent : id ∈ recentIds a.capacity ds ↔ (a.shelf.get? id).isSome := by
    rw [← h.queue, List.mem_reverse, inStep.held]
  cases hget : a.shelf.get? id with
  | none =>
    rw [hget] at recent
    exact (if_neg (mt recent.mp Bool.false_ne_true)).symm
  | some e =>
    rw [hget] at recent
    rw [if_pos (recent.mpr rfl), h.last id e hget]

theorem Caches.map_entries {a : Archive} {ds : List Archived} (h : a.Caches ds)
    (inStep : a.InStep) : a.entries.map some = (recentIds a.capacity ds).map (lastOf? ds) := by
  rw [inStep.entries_eq.1, h.queue]
  refine List.map_congr_left fun id hid => ?_
  rw [h.get?_eq inStep, if_pos hid]

/-- After any deliveries the list names the distinct ids that came last, as many as there is
room for, each with the last delivery of that id; looking an id up gives the battle of its last
delivery when it is among them. The queue of ids and the battles by id agree. -/
theorem run_eq_recent (c : Nat) (ds : List Archived) :
    let a := ((ofCapacity c).run ds).1
    let ids := recentIds (max c 1) ds
    a.entries.map (·.listing.id) = ids ∧
      a.entries.map (fun e => some e.listing) = ids.map (fun id => (lastOf? ds id).map (·.listing)) ∧
      (∀ id, a.get? id = if id ∈ ids then (lastOf? ds id).map (·.battle) else none) ∧
      a.size = a.entries.length ∧ a.size ≤ a.capacity ∧ a.capacity = max c 1 ∧
      a.order.Nodup ∧ (a.shelf.entries.map (·.1)).Nodup ∧
      a.order.Perm (a.shelf.entries.map (·.1)) := by
  intro a ids
  have sound : a.Sound := (sound_ofCapacity c).run ds
  have caches : a.Caches ds := (caches_ofCapacity c).run (sound_ofCapacity c) ds
  have capacity : a.capacity = max c 1 := capacity_run _ ds
  have queue : a.order.reverse = ids := by rw [caches.queue, capacity]
  have size : a.size = a.order.length := sound.size_eq
  have named := sound.entries_eq.2
  refine ⟨named.trans queue, ?_, fun id => ?_, ?_, ?_, capacity, sound.distinct,
    a.shelf.distinct, sound.perm_ids⟩
  · have last := congrArg (List.map (Option.map Archived.listing)) (caches.map_entries sound.toInStep)
    rw [capacity, List.map_map, List.map_map] at last
    exact last
  · rw [get?, caches.get?_eq sound.toInStep, capacity]
    split <;> rfl
  · rw [size, ← List.length_reverse, ← named, List.length_map]
  · rw [size]
    exact sound.fits

/-- A battle that comes again moves to the front, and the other one goes first. -/
example :
    let at_ (id : String) : Archived := ⟨⟨0, 0⟩, { id }⟩
    (((ofCapacity 2).run [at_ "a", at_ "b", at_ "a", at_ "c"]).1.entries.map Archived.id)
      = ["c", "a"] := by
  decide +kernel

end Flotilla.Battle.Archive
