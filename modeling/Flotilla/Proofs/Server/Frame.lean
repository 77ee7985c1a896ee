import Flotilla.Proofs.Files
import Flotilla.Server.Basic

/-! # What a request may change

Only posts of battles and of syncs change a server, and each only a part of it: the archive, or
the store with the snapshot file. A refused request changes nothing. -/
namespace Flotilla.Server

open Flotilla.Record Flotilla.Store

/-! ## The two posts -/

namespace Request

/-- The request delivers a battle. -/
def PostsBattle (r : Request) : Prop :=
  r.method = "POST" ∧ r.segments = ["api", "battles"]

/-- The request delivers updates. -/
def PostsSync (r : Request) : Prop :=
  r.method = "POST" ∧ r.segments = ["api", "sync"]

instance (r : Request) : Decidable r.PostsBattle := inferInstanceAs (Decidable (_ ∧ _))
instance (r : Request) : Decidable r.PostsSync := inferInstanceAs (Decidable (_ ∧ _))

variable {r : Request}

theorem route?_eq_newBattle : r.route? = some .newBattle ↔ r.PostsBattle := by
  unfold route? PostsBattle
  split <;> simp_all

theorem route?_eq_sync : r.route? = some .sync ↔ r.PostsSync := by
  unfold route? PostsSync
  split <;> simp_all

theorem PostsSync.not_battle (h : r.PostsSync) : ¬r.PostsBattle := by
  rintro ⟨-, segments⟩
  rw [h.2] at segments
  simp at segments

end Request

theorem respond_battle {s : Server} {r : Request} (h : r.PostsBattle) (now : Instant) :
    s.respond now r = s.receive now r.body := by
  rw [respond, Request.route?_eq_newBattle.mpr h]

theorem respond_sync {s : Server} {r : Request} (h : r.PostsSync) (now : Instant) :
    s.respond now r = s.sync r.token r.body := by
  rw [respond, Request.route?_eq_sync.mpr h]

theorem respond_other {s : Server} {r : Request} (battle : ¬r.PostsBattle) (sync : ¬r.PostsSync)
    (now : Instant) : (s.respond now r).1 = s := by
  unfold respond
  split
  · rfl
  · rename_i route
    exact absurd (Request.route?_eq_newBattle.mp route) battle
  · rename_i route
    exact absurd (Request.route?_eq_sync.mp route) sync
  · rfl

/-! ## Refusals -/

theorem receive_refused {s : Server} {now : Instant} {body : String}
    (h : (s.receive now body).2.status ≠ .ok) : (s.receive now body).1 = s := by
  unfold receive at h ⊢
  split
  · rfl
  · rename_i read
    rw [read] at h
    exact absurd rfl h

theorem sync_refused {s : Server} {token : Option String} {body : String}
    (h : (s.sync token body).2.status ≠ .ok) : (s.sync token body).1 = s := by
  unfold sync at h ⊢
  split
  · rfl
  · rename_i admitted
    rw [if_neg admitted] at h
    split
    · rfl
    · rename_i read
      rw [read] at h
      exact absurd rfl h

/-- A request that is not answered with success leaves the server as it is. -/
theorem respond_refused {s : Server} {now : Instant} {r : Request}
    (h : (s.respond now r).2.status ≠ .ok) : (s.respond now r).1 = s := by
  by_cases battle : r.PostsBattle
  · rw [respond_battle battle] at h ⊢
    exact receive_refused h
  by_cases sync : r.PostsSync
  · rw [respond_sync sync] at h ⊢
    exact sync_refused h
  exact respond_other battle sync now

/-! ## The parts -/

theorem receive_frame (s : Server) (now : Instant) (body : String) :
    (s.receive now body).1 = { s with archive := (s.receive now body).1.archive } := by
  unfold receive
  split <;> rfl

@[simp] theorem syncToken_receive (s : Server) (now : Instant) (body : String) :
    (s.receive now body).1.syncToken = s.syncToken := by
  rw [receive_frame]

/-- Files that differ at most as an attempt to save a text at a path makes them differ: the end of
the path may hold the text, and there may be directories where nothing stood. Without a path they do
not differ. -/
def SavedAt (path : Option String) (text : String) (before after : Files) : Prop :=
  ∀ place, after.standing? place = before.standing? place ∨ ∃ p ∈ path,
    before.standing? place = none ∧ after.standing? place = some .directory ∨
      after.find p = .ok (place, .file (.text text))

theorem savedAt_savedFiles (store : Store) (files : Files) (path : Option String) :
    SavedAt path store.toText files (savedFiles store files path) := by
  intro place
  cases path with
  | none => exact .inl rfl
  | some p =>
    exact (Files.standing?_save files p (.text store.toText) place).imp id fun h => ⟨p, rfl, h⟩

theorem sync_frame (s : Server) (token : Option String) (body : String) :
    let t := (s.sync token body).1
    t = { s with store := t.store, files := t.files } ∧
      SavedAt s.snapshotPath t.store.toText s.files t.files := by
  unfold sync
  split
  · exact ⟨rfl, fun _ => .inl rfl⟩
  · split
    · exact ⟨rfl, fun _ => .inl rfl⟩
    · rename_i values read
      refine ⟨rfl, ?_⟩
      dsimp only
      split
      · exact savedAt_savedFiles _ _ _
      · exact fun _ => .inl rfl

@[simp] theorem syncToken_sync (s : Server) (token : Option String) (body : String) :
    (s.sync token body).1.syncToken = s.syncToken := by
  rw [(s.sync_frame token body).1]

@[simp] theorem archive_sync (s : Server) (token : Option String) (body : String) :
    (s.sync token body).1.archive = s.archive := by
  rw [(s.sync_frame token body).1]

/-- What a request may change: nothing when it is refused or is no post of a battle or a sync,
else the archive only or the store with the snapshot file only. -/
structure Confined (s : Server) (now : Instant) (r : Request) : Prop where
  refused : (s.respond now r).2.status ≠ .ok → (s.respond now r).1 = s
  other : ¬r.PostsBattle → ¬r.PostsSync → (s.respond now r).1 = s
  battle : r.PostsBattle →
    (s.respond now r).1 = { s with archive := (s.respond now r).1.archive }
  sync : r.PostsSync →
    let t := (s.respond now r).1
    t = { s with store := t.store, files := t.files } ∧
      SavedAt s.snapshotPath t.store.toText s.files t.files

theorem confined (s : Server) (now : Instant) (r : Request) : s.Confined now r where
  refused := respond_refused
  other battle sync := respond_other battle sync now
  battle h := by
    rw [respond_battle h]
    exact receive_frame s now r.body
  sync h := by
    rw [respond_sync h]
    exact sync_frame s r.token r.body

end Flotilla.Server
