import Flotilla.Proofs.Battle.Receipt
import Flotilla.Proofs.Server.Durability
import Flotilla.Proofs.Server.Frame

/-! # Two feeds

The posts of battles and the posts of syncs act on two aspects of a server that have nothing in
common. An aspect depends on the requests that concern it alone, in their order; so it makes no
difference how a feed of battles and a feed of syncs mix. -/
namespace Flotilla.Server

open Flotilla.Battle

/-- The replies to requests, each with its request. -/
def answers (s : Server) : List (Instant × Request) → List (Request × Reply)
  | [] => []
  | (now, r) :: rest => (r, (s.respond now r).2) :: answers (s.respond now r).1 rest

/-! ## Aspects -/

/-- An aspect of a server. Requests that do not concern it leave it alike; those that do concern
it get the same replies from servers alike in it, at whatever times, and leave them alike. -/
structure Aspect where
  concerns : Request → Bool
  Alike : Server → Server → Prop
  equivalence : Equivalence Alike
  left_alone : ∀ {r}, concerns r = false → ∀ s now, Alike (s.respond now r).1 s
  answered : ∀ {r}, concerns r = true → ∀ s t, Alike s t → ∀ now later,
    Alike (s.respond now r).1 (t.respond later r).1 ∧ (s.respond now r).2 = (t.respond later r).2

namespace Aspect

/-- Requests do to an aspect what those among them do that concern it. -/
theorem run_concerned (p : Aspect) {s t : Server} {xs zs : List (Instant × Request)}
    (alike : p.Alike s t) (h : zs.map (·.2) = (xs.map (·.2)).filter p.concerns) :
    p.Alike (s.run xs) (t.run zs) ∧
      (s.answers xs).filter (fun a => p.concerns a.1) = t.answers zs := by
  -- a request that does not concern the aspect moves the first server only, one that does moves
  -- both, and they stay alike
  induction xs generalizing s t zs with
  | nil =>
    obtain rfl := List.map_eq_nil_iff.mp h
    exact ⟨alike, rfl⟩
  | cons x xs ih =>
    obtain ⟨now, r⟩ := x
    cases concerned : p.concerns r with
    | false =>
      rw [List.map_cons, List.filter_cons_of_neg (by simp [concerned])] at h
      obtain ⟨after, replies⟩ := ih (p.equivalence.trans (p.left_alone concerned s now) alike) h
      refine ⟨after, ?_⟩
      rw [answers, List.filter_cons_of_neg (by simp [concerned])]
      exact replies
    | true =>
      rw [List.map_cons, List.filter_cons_of_pos concerned] at h
      obtain ⟨⟨later, _⟩, zs, rfl, rfl, rest⟩ := List.map_eq_cons_iff.mp h
      obtain ⟨alike, reply⟩ := p.answered concerned s t alike now later
      obtain ⟨after, replies⟩ := ih alike rest
      refine ⟨after, ?_⟩
      rw [answers, List.filter_cons_of_pos (by simpa using concerned), replies, reply]
      rfl

/-- Requests of which the same ones concern an aspect, in the same order, leave it alike. -/
theorem run_alike (p : Aspect) (s : Server) {xs ys : List (Instant × Request)}
    (h : (xs.map (·.2)).filter p.concerns = (ys.map (·.2)).filter p.concerns) :
    p.Alike (s.run xs) (s.run ys) ∧
      (s.answers xs).filter (fun a => p.concerns a.1)
        = (s.answers ys).filter fun a => p.concerns a.1 := by
  have own := (List.filter_map (f := (·.2)) (p := p.concerns) (l := xs)).symm
  obtain ⟨left, leftReplies⟩ := p.run_concerned (p.equivalence.refl s) own
  obtain ⟨right, rightReplies⟩ := p.run_concerned (p.equivalence.refl s) (own.trans h)
  exact ⟨p.equivalence.trans left (p.equivalence.symm right), leftReplies.trans rightReplies.symm⟩

end Aspect

/-! ## The archive -/

theorem receive_alike {s t : Server} (h : s.archive.Alike t.archive) (now later : Instant)
    (body : String) :
    (s.receive now body).1.archive.Alike (t.receive later body).1.archive ∧
      (s.receive now body).2 = (t.receive later body).2 := by
  unfold receive
  cases Battle.ofText body with
  | error e => exact ⟨h, rfl⟩
  | ok b =>
    obtain ⟨archived, displaced⟩ := h.insert b now later
    refine ⟨archived, ?_⟩
    dsimp only
    rw [displaced]

theorem archive_respond {r : Request} (h : ¬r.PostsBattle) (s : Server) (now : Instant) :
    (s.respond now r).1.archive = s.archive := by
  by_cases sync : r.PostsSync
  · simp [respond_sync sync]
  · simp [respond_other h sync]

/-- The archive, with times of receipt aside. -/
def battleAspect : Aspect where
  concerns r := r.PostsBattle
  Alike s t := s.archive.Alike t.archive
  equivalence := ⟨fun s => .refl s.archive, .symm, .trans⟩
  left_alone h s now := by
    rw [archive_respond (of_decide_eq_false h)]
    exact .refl s.archive
  answered h s t alike now later := by
    rw [respond_battle (of_decide_eq_true h), respond_battle (of_decide_eq_true h)]
    exact receive_alike alike now later _

/-! ## The store -/

/-- Servers that differ at most in their archives. -/
structure AlikeInStore (s t : Server) : Prop where
  store : s.store = t.store
  files : s.files = t.files
  syncToken : s.syncToken = t.syncToken
  snapshotPath : s.snapshotPath = t.snapshotPath

namespace AlikeInStore

variable {s t u : Server}

theorem refl (s : Server) : s.AlikeInStore s := ⟨rfl, rfl, rfl, rfl⟩

theorem symm (h : s.AlikeInStore t) : t.AlikeInStore s :=
  ⟨h.store.symm, h.files.symm, h.syncToken.symm, h.snapshotPath.symm⟩

theorem trans (h : s.AlikeInStore t) (h' : t.AlikeInStore u) : s.AlikeInStore u :=
  ⟨h.store.trans h'.store, h.files.trans h'.files, h.syncToken.trans h'.syncToken,
    h.snapshotPath.trans h'.snapshotPath⟩

theorem eq_with (h : s.AlikeInStore t) : t = { s with archive := t.archive } := by
  cases s; cases t
  obtain ⟨rfl, rfl, rfl, rfl⟩ := h
  rfl

end AlikeInStore

/-- A sync does not read the archive, and leaves it as it is. -/
theorem sync_with (s : Server) (archive : Archive) (token : Option String) (body : String) :
    Server.sync { s with archive } token body
      = ({ (s.sync token body).1 with archive }, (s.sync token body).2) := by
  unfold sync
  rw [show Server.admits { s with archive } token = s.admits token from rfl]
  split
  · rfl
  · split <;> rfl

theorem AlikeInStore.sync {s t : Server} (h : s.AlikeInStore t) (token : Option String)
    (body : String) :
    (s.sync token body).1.AlikeInStore (t.sync token body).1 ∧
      (s.sync token body).2 = (t.sync token body).2 := by
  rw [h.eq_with, sync_with s t.archive]
  exact ⟨⟨rfl, rfl, rfl, rfl⟩, rfl⟩

theorem alikeInStore_respond {r : Request} (h : ¬r.PostsSync) (s : Server) (now : Instant) :
    (s.respond now r).1.AlikeInStore s := by
  by_cases battle : r.PostsBattle
  · rw [respond_battle battle, receive_frame]
    exact ⟨rfl, rfl, rfl, rfl⟩
  · rw [respond_other battle h]
    exact .refl s

/-- The store and the files, with what decides on a sync. -/
def storeAspect : Aspect where
  concerns r := r.PostsSync
  Alike := AlikeInStore
  equivalence := ⟨.refl, .symm, .trans⟩
  left_alone h := alikeInStore_respond (of_decide_eq_false h)
  answered h s t alike now later := by
    rw [respond_sync (of_decide_eq_true h), respond_sync (of_decide_eq_true h)]
    exact alike.sync _ _

/-! ## Mixtures -/

/-- The elements of two sequences in one, those of each in their order. -/
inductive Interleaves {α : Type} : List α → List α → List α → Prop
  | nil : Interleaves [] [] []
  | left {x : α} {as bs xs : List α} : Interleaves as bs xs → Interleaves (x :: as) bs (x :: xs)
  | right {x : α} {as bs xs : List α} : Interleaves as bs xs → Interleaves as (x :: bs) (x :: xs)

namespace Interleaves

variable {α : Type} {as bs xs : List α}

theorem symm (h : Interleaves as bs xs) : Interleaves bs as xs := by
  induction h with
  | nil => exact .nil
  | left _ ih => exact ih.right
  | right _ ih => exact ih.left

theorem append (as bs : List α) : Interleaves as bs (as ++ bs) := by
  induction as with
  | nil =>
    induction bs with
    | nil => exact .nil
    | cons b bs ih => exact ih.right
  | cons a as ih => exact ih.left

/-- What tells the elements of two sequences apart takes the first one out of a mixture. -/
theorem filter_left {p : α → Bool} (h : Interleaves as bs xs) (left : ∀ a ∈ as, p a = true)
    (right : ∀ b ∈ bs, p b = false) : xs.filter p = as := by
  induction h with
  | nil => rfl
  | @left a as bs xs _ ih =>
    obtain ⟨first, left⟩ := List.forall_mem_cons.mp left
    rw [List.filter_cons_of_pos first, ih left right]
  | @right b as bs xs _ ih =>
    obtain ⟨first, right⟩ := List.forall_mem_cons.mp right
    rw [List.filter_cons_of_neg (by simp [first]), ih left right]

end Interleaves

/-- Two runs of requests end with the same store, the same files and the same battles in the same
order, times of receipt aside, and give the same replies to battles and to syncs. -/
structure SameResults (s : Server) (xs ys : List (Instant × Request)) : Prop where
  store : (s.run xs).store = (s.run ys).store
  files : (s.run xs).files = (s.run ys).files
  order : (s.run xs).archive.order = (s.run ys).archive.order
  lookup : ∀ id, (s.run xs).archive.get? id = (s.run ys).archive.get? id
  listed : (s.run xs).archive.entries.map (·.battle) = (s.run ys).archive.entries.map (·.battle)
  battleReplies : (s.answers xs).filter (fun a => a.1.PostsBattle)
    = (s.answers ys).filter fun a => a.1.PostsBattle
  syncReplies : (s.answers xs).filter (fun a => a.1.PostsSync)
    = (s.answers ys).filter fun a => a.1.PostsSync

theorem sameResults (s : Server) {battles syncs : List Request}
    (areBattles : ∀ r ∈ battles, r.PostsBattle) (areSyncs : ∀ r ∈ syncs, r.PostsSync)
    {xs ys : List (Instant × Request)} (hx : Interleaves battles syncs (xs.map (·.2)))
    (hy : Interleaves battles syncs (ys.map (·.2))) : s.SameResults xs ys := by
  have concernsBattles : ∀ r ∈ battles, battleAspect.concerns r = true :=
    fun r hr => decide_eq_true (areBattles r hr)
  have sparesBattles : ∀ r ∈ syncs, battleAspect.concerns r = false :=
    fun r hr => decide_eq_false (areSyncs r hr).not_battle
  have concernsStore : ∀ r ∈ syncs, storeAspect.concerns r = true :=
    fun r hr => decide_eq_true (areSyncs r hr)
  have sparesStore : ∀ r ∈ battles, storeAspect.concerns r = false :=
    fun r hr => decide_eq_false fun sync => sync.not_battle (areBattles r hr)
  obtain ⟨archive, battleReplies⟩ := battleAspect.run_alike s
    ((hx.filter_left concernsBattles sparesBattles).trans
      (hy.filter_left concernsBattles sparesBattles).symm)
  obtain ⟨inStore, syncReplies⟩ := storeAspect.run_alike s
    ((hx.symm.filter_left concernsStore sparesStore).trans
      (hy.symm.filter_left concernsStore sparesStore).symm)
  exact {
    store := inStore.store
    files := inStore.files
    order := archive.order
    lookup := archive.get?_eq
    listed := archive.map_entries
    battleReplies
    syncReplies }

/-- A request changes only what it may. So any mixture of a feed of battles and a feed of syncs
has the same results as one feed behind the other, whichever comes first. -/
theorem feeds_independent :
    (∀ s now r, Confined s now r) ∧
    ∀ (s : Server) (battles syncs : List Request),
      (∀ r ∈ battles, r.PostsBattle) → (∀ r ∈ syncs, r.PostsSync) →
      ∀ xs ys : List (Instant × Request), Interleaves battles syncs (xs.map (·.2)) →
        (ys.map (·.2) = battles ++ syncs ∨ ys.map (·.2) = syncs ++ battles) →
        s.SameResults xs ys := by
  refine ⟨confined, fun s battles syncs areBattles areSyncs xs ys hx hy => ?_⟩
  refine sameResults s areBattles areSyncs hx ?_
  rcases hy with hy | hy
  · rw [hy]
    exact .append battles syncs
  · rw [hy]
    exact (Interleaves.append syncs battles).symm

/-- A battle, a text that is no battle, and the battle again. -/
def battleFeed : List Request :=
  ["[\"1\",0,0,0,1,0,[]]", "[]", "[\"1\",0,0,0,1,0,[]]"].map fun body =>
    { method := "POST", target := "/api/battles", body }

/-- Updates of which one is accepted, and a text that is no list. -/
def updateFeed : List Request :=
  ["[[\"combined_flag\",2],7]", "7"].map fun body =>
    { method := "POST", target := "/api/sync", body }

theorem feeds_independent_mixed :
    let s := start {} {} ⟨0, 0⟩
    let mixed : List Request :=
      [battleFeed[0], updateFeed[0], battleFeed[1], updateFeed[1], battleFeed[2]]
    let xs := mixed.map fun r => (⟨1, 0⟩, r)
    let ys := (updateFeed ++ battleFeed).map fun r => (⟨2, 0⟩, r)
    s.SameResults xs ys ∧ (s.run xs).archive.order = ["1"] ∧
      (s.run xs).store.combined = .surfaceTask := by
  intro s mixed xs ys
  have areBattles : ∀ r ∈ battleFeed, r.PostsBattle := by decide +kernel
  have areSyncs : ∀ r ∈ updateFeed, r.PostsSync := by decide +kernel
  have together : Interleaves battleFeed updateFeed (xs.map (·.2)) :=
    .left (.right (.left (.right (.left .nil))))
  exact ⟨feeds_independent.2 s battleFeed updateFeed areBattles areSyncs xs ys together (.inr rfl),
    by decide +kernel, by decide +kernel⟩

end Flotilla.Server
