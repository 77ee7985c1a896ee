import Flotilla.Proofs.Files
import Flotilla.Proofs.Store.RoundTrip
import Flotilla.Proofs.Store.Update
import Flotilla.Server.Basic

/-! # A restart loses nothing

The snapshot file is written only when a sync has accepted items, and yet it always
stands for the store in memory: a written snapshot is read back as the store, and a
sync without accepted items leaves the store as the file has it. So a server that
starts again after any requests has the store that it had. -/
namespace Flotilla.Server

open Flotilla.Record Flotilla.Store

/-! ## Runs -/

/-- The server after requests, each at its time. -/
def run (s : Server) : List (Instant × Request) → Server
  | [] => s
  | (now, r) :: rest => run (s.respond now r).1 rest

/-- The store that a sync with a body is to write to the snapshot file, if it writes any. -/
def writtenBySync (s : Server) (token : Option String) (body : String) : Option Store :=
  if !s.admits token then none
  else
    match readText? readValues body with
    | .error _ => none
    | .ok values =>
      let (store, tally) := s.store.applyAll (updatesAmong values)
      if 0 < tally.accepted then some store else none

/-- The store that a request is to write to the snapshot file, if it writes any. -/
def written (s : Server) (r : Request) : Option Store :=
  match r.route? with
  | some .sync => s.writtenBySync r.token r.body
  | _ => none

/-- Every snapshot that requests write can be written when its turn comes. -/
def WritesSucceed (s : Server) : List (Instant × Request) → Prop
  | [] => True
  | (now, r) :: rest =>
    (∀ path ∈ s.snapshotPath, ∀ store ∈ s.written r, (store.saveTo s.files path).2.isOk) ∧
      WritesSucceed (s.respond now r).1 rest

instance decidableWritesSucceed (s : Server) :
    (requests : List (Instant × Request)) → Decidable (s.WritesSucceed requests)
  | [] => inferInstanceAs (Decidable True)
  | (now, r) :: rest =>
    have := decidableWritesSucceed (s.respond now r).1 rest
    inferInstanceAs (Decidable (_ ∧ _))

/-! ## The invariant -/

/-- The snapshot file at a path stands for the store, whose air bases are in order. -/
structure Durable (s : Server) (path : String) : Prop where
  arranged : s.store.Arranged
  kept : s.snapshotPath = some path
  loaded : loadOrEmpty s.files path = s.store

theorem load_savedFiles {s : Store} (h : s.Arranged) {files : Files} {path : String}
    (succeeds : (s.saveTo files path).2.isOk) :
    loadOrEmpty (savedFiles s files (some path)) path = s := by
  rw [savedFiles]
  rcases attempt : s.saveTo files path with ⟨saved, e | u⟩
  · rw [attempt] at succeeds
    cases succeeds
  · rw [loadOrEmpty, h.load_saved attempt]

theorem arranged_loadOrEmpty (files : Files) (path : String) : (loadOrEmpty files path).Arranged := by
  unfold loadOrEmpty load
  cases files.read path with
  | error e => exact arranged_empty
  | ok text =>
    cases htext : Store.ofText text with
    | error e => simp only [htext]; exact arranged_empty
    | ok s => simp only [htext]; exact arranged_of_ofText htext

theorem durable_start (settings : Settings) (files : Files) (now : Instant) :
    (start settings files now).Durable settings.snapshotPath where
  arranged := arranged_loadOrEmpty files settings.snapshotPath
  kept := rfl
  loaded := rfl

/-- A sync that writes no snapshot changes nothing at all. -/
theorem sync_of_none {s : Server} (h : s.store.Arranged) {token : Option String} {body : String}
    (hw : s.writtenBySync token body = none) : (s.sync token body).1 = s := by
  unfold writtenBySync at hw
  unfold sync
  split
  · rfl
  · rename_i hadmits
    rw [if_neg hadmits] at hw
    cases hvalues : readText? readValues body with
    | error e => rfl
    | ok values =>
      simp only [hvalues] at hw ⊢
      by_cases haccepted : 0 < (s.store.applyAll (updatesAmong values)).2.accepted
      · rw [if_pos haccepted] at hw; cases hw
      · have same := h.applyAll_of_none_accepted (Nat.eq_zero_of_not_pos haccepted)
        rw [if_neg haccepted, same]

/-- A sync that writes a snapshot has applied updates to the store, and writes the result. -/
theorem sync_of_some {s : Server} {token : Option String} {body : String} {store : Store}
    (hw : s.writtenBySync token body = some store) :
    (∃ updates, (s.store.applyAll updates).1 = store) ∧
      (s.sync token body).1
        = { s with store, files := savedFiles store s.files s.snapshotPath } := by
  unfold writtenBySync at hw
  unfold sync
  split
  · rename_i hadmits
    rw [if_pos hadmits] at hw
    cases hw
  · rename_i hadmits
    rw [if_neg hadmits] at hw
    cases hvalues : readText? readValues body with
    | error e => rw [hvalues] at hw; cases hw
    | ok values =>
      simp only [hvalues] at hw ⊢
      by_cases haccepted : 0 < (s.store.applyAll (updatesAmong values)).2.accepted
      · rw [if_pos haccepted] at hw
        obtain rfl := Option.some.inj hw
        exact ⟨⟨updatesAmong values, rfl⟩, by rw [if_pos haccepted]⟩
      · rw [if_neg haccepted] at hw; cases hw

section

variable {s : Server} {path : String} (h : s.Durable path)

include h

theorem Durable.sync {token : Option String} {body : String}
    (hw : ∀ store ∈ s.writtenBySync token body, (store.saveTo s.files path).2.isOk) :
    (s.sync token body).1.Durable path := by
  cases hstore : s.writtenBySync token body with
  | none => rw [sync_of_none h.arranged hstore]; exact h
  | some store =>
    obtain ⟨⟨updates, rfl⟩, after⟩ := sync_of_some hstore
    have arranged := h.arranged.applyAll updates
    have loaded := load_savedFiles arranged (hw _ hstore)
    rw [after, h.kept]
    refine ⟨arranged, rfl, ?_⟩
    dsimp only
    exact loaded

theorem Durable.receive (now : Instant) (body : String) : (s.receive now body).1.Durable path := by
  unfold Server.receive
  split
  · exact h
  · exact ⟨h.arranged, h.kept, h.loaded⟩

/-- A request keeps the snapshot file in step with the store. -/
theorem Durable.respond (now : Instant) {r : Request}
    (hw : ∀ store ∈ s.written r, (store.saveTo s.files path).2.isOk) :
    (s.respond now r).1.Durable path := by
  unfold written at hw
  unfold Server.respond
  split
  · exact h
  · exact h.receive now r.body
  · rename_i hroute
    rw [hroute] at hw
    exact h.sync hw
  · exact h

end

theorem Durable.run {s : Server} {path : String} (h : s.Durable path)
    {requests : List (Instant × Request)} (hw : s.WritesSucceed requests) :
    (s.run requests).Durable path := by
  induction requests generalizing s with
  | nil => exact h
  | cons x requests ih => exact ih (h.respond x.1 (hw.1 path h.kept)) hw.2

theorem WritesSucceed.of_append {s : Server} {requests rest : List (Instant × Request)}
    (hw : s.WritesSucceed (requests ++ rest)) : s.WritesSucceed requests := by
  induction requests generalizing s with
  | nil => trivial
  | cons x requests ih => exact ⟨hw.1, ih hw.2⟩

/-- After each of any requests the snapshot file gives the store in memory, when the writes
of the file succeed. So a server that starts again there goes on with the same store. -/
theorem restart_after_requests (settings : Settings) (files : Files) (now : Instant)
    {requests : List (Instant × Request)}
    (hw : (start settings files now).WritesSucceed requests) :
    ∀ done, done <+: requests →
      let s := (start settings files now).run done
      loadOrEmpty s.files settings.snapshotPath = s.store ∧
        ∀ later, (start settings s.files later).store = s.store := by
  rintro done ⟨rest, rfl⟩ s
  have loaded := ((durable_start settings files now).run hw.of_append).loaded
  exact ⟨loaded, fun _ => loaded⟩

/-- A sync with an accepted item, one without, and a look at a fleet. -/
def visits : List (Instant × Request) :=
  [(⟨0, 0⟩, { method := "POST", target := "/api/sync"
              body := "[[\"combined_flag\",2],7]" }),
   (⟨1, 0⟩, { method := "POST", target := "/api/sync"
              body := "[[\"air_bases\",[]]]" }),
   (⟨2, 0⟩, { method := "GET", target := "/api/fleets/1" })]

/-- A server without a snapshot file, which makes the directory for it. -/
theorem restart_after_visits :
    let s := (start {} {} ⟨0, 0⟩).run visits
    loadOrEmpty s.files ({} : Settings).snapshotPath = s.store ∧ s.store.combined = .surfaceTask :=
  have hw : (start {} {} ⟨0, 0⟩).WritesSucceed visits := by decide +kernel
  ⟨(restart_after_requests {} {} ⟨0, 0⟩ hw visits (List.prefix_refl _)).1, by decide +kernel⟩

end Flotilla.Server
