import Flotilla.Proofs.Json.Members
import Flotilla.Proofs.Json.RoundTrip
import Flotilla.Proofs.Server.Interleaving
import Flotilla.Proofs.Server.Target

/-! # Reading a battle back

A battle that was accepted is in the archive under the id that the reply reports. The views of it
are found under that id exactly when the id can stand in a path; under any other id the target
leads elsewhere, and no reply there is about the battle. -/
namespace Flotilla

open Flotilla.Battle

namespace Server

/-! ## What replies are about -/

namespace Reply

/-- The reply is about the battle with an id: a success, with the id in front. -/
def IsAbout (r : Reply) (id : String) : Prop :=
  ∃ members, r = .of (.object (("battle_id", .string id) :: members))

variable {r : Reply} {id other : String}

theorem pretty_of_same {v w : Json} (h : Reply.of v = Reply.of w) : v.pretty = w.pretty :=
  (Reply.mk.inj h).2

theorem IsAbout.status (h : r.IsAbout id) : r.status = .ok := by
  obtain ⟨_, rfl⟩ := h
  rfl

/-- A reply is about one battle at most. -/
theorem IsAbout.unique (h : r.IsAbout id) (h' : r.IsAbout other) : id = other := by
  obtain ⟨_, rfl⟩ := h
  obtain ⟨_, same⟩ := h'
  exact Json.first_string_of_pretty (pretty_of_same same)

theorem not_isAbout_refusal (cause : Refusal) : ¬cause.reply.IsAbout id := by
  intro h
  have status : cause.status = .ok := h.status
  cases cause <;> cases status

/-- The id that a reply reports. -/
def reportedId? (r : Reply) : Option String :=
  match Json.ofText r.body with
  | .ok (.object members) =>
    match members.lookup "id" with
    | some (.string id) => some id
    | _ => none
  | _ => none

end Reply

namespace BattleView

/-- The reply with a view of a battle. -/
def reply (s : Server) (b : Battle) : BattleView → Reply
  | .summary => .of (summarize s.store b).toJson
  | .tables => s.tablesReply b

theorem isAbout_reply (v : BattleView) (s : Server) (b : Battle) : (v.reply s b).IsAbout b.id := by
  cases v with
  | summary => exact ⟨_, rfl⟩
  | tables =>
    have keys : Json.IsMap [("battle_id", .string b.id),
        ("phases", (Json.ofList AttackTable.toJson (attackTables s.store b)).settled)] :=
      List.pairwise_pair.mpr (show "battle_id" < "phases" by decide)
    refine ⟨[("phases", (Json.ofList AttackTable.toJson (attackTables s.store b)).settled)], ?_⟩
    exact congrArg (fun members => Reply.of (.object members)) (Json.settle_of_isMap keys)

end BattleView

theorem not_isAbout_battlesReply (s : Server) (id : String) : ¬s.battlesReply.IsAbout id := by
  rintro ⟨_, same⟩
  have keys : "battles" = "battle_id" := (Json.first_of_pretty (Reply.pretty_of_same same)).1
  exact absurd keys (by decide)

theorem respond_view {s : Server} {r : Request} {v : BattleView} {id : String}
    (h : r.route? = some (v.route id)) (now : Instant) :
    (s.respond now r).2 = s.aboutBattle id (v.reply s) := by
  rw [respond, h]
  cases v <;> rfl

theorem respond_battles {s : Server} {r : Request} (h : r.route? = some .battles) (now : Instant) :
    (s.respond now r).2 = s.battlesReply := by
  rw [respond, h]
  rfl

theorem respond_nowhere {s : Server} {r : Request} (h : r.route? = none) (now : Instant) :
    (s.respond now r).2 = Refusal.noRoute.reply := by
  rw [respond, h]

/-- What is found under an id in an archive is about the battle with that id and no other. -/
theorem id_of_isAbout {s : Server} (sound : s.archive.Sound) {v : BattleView} {id other : String}
    (h : (s.aboutBattle id (v.reply s)).IsAbout other) : other = id := by
  unfold aboutBattle at h
  split at h
  · rename_i b found
    obtain ⟨entry, held, rfl⟩ := Option.map_eq_some_iff.mp found
    rw [← sound.named id entry held]
    exact h.unique (v.isAbout_reply s entry.battle)
  · exact absurd h (Reply.not_isAbout_refusal _)

/-! ## Sound archives -/

theorem sound_receive {s : Server} (h : s.archive.Sound) (now : Instant) (body : String) :
    (s.receive now body).1.archive.Sound := by
  unfold receive
  split
  · exact h
  · rename_i b _
    exact h.insert ⟨now, b⟩

theorem sound_respond {s : Server} (h : s.archive.Sound) (now : Instant) (r : Request) :
    (s.respond now r).1.archive.Sound := by
  by_cases battle : r.PostsBattle
  · rw [respond_battle battle]
    exact sound_receive h now r.body
  · rw [archive_respond battle]
    exact h

theorem sound_deliveries {a : Archive} (h : a.Sound) (battles : List Battle) (now : Instant) :
    (battles.foldl (fun a b => (a.insert b now).1) a).Sound := by
  induction battles generalizing a with
  | nil => exact h
  | cons b battles ih => exact ih (h.insert ⟨now, b⟩)

theorem sound_start (settings : Settings) (files : Files) (now : Instant) :
    (start settings files now).archive.Sound :=
  sound_deliveries (Archive.sound_ofCapacity _) _ now

theorem sound_run {s : Server} (h : s.archive.Sound) (requests : List (Instant × Request)) :
    (s.run requests).archive.Sound := by
  induction requests generalizing s with
  | nil => exact h
  | cons x requests ih => exact ih (sound_respond h x.1 x.2)

/-- A server that was started and has answered requests since. -/
def Reached (s : Server) : Prop :=
  ∃ settings files now requests, s = (start settings files now).run requests

theorem Reached.sound {s : Server} (h : s.Reached) : s.archive.Sound := by
  obtain ⟨settings, files, now, requests, rfl⟩ := h
  exact sound_run (sound_start settings files now) requests

/-! ## Accepted battles -/

/-- The members of the reply to an accepted battle, in order. -/
def acceptance (id : String) (displaced : Option Battle) : Json.Members :=
  [("displaced", .ofOption (fun d => .string d.id) displaced), ("id", .string id),
    ("status", .string "ok")]

theorem plain_acceptance (id : String) (displaced : Option Battle) :
    (Json.object (acceptance id displaced)).Plain := by
  cases displaced <;> exact ⟨trivial, trivial, trivial, trivial⟩

theorem reply_accepted (id : String) (displaced : Option Battle) :
    Reply.ofMap [("status", .string "ok"), ("id", .string id),
        ("displaced", .ofOption (fun d => .string d.id) displaced)]
      = .of (.object (acceptance id displaced)) := by
  have inOrder (status id displaced : Json) :
      Json.settle [("status", status), ("id", id), ("displaced", displaced)]
        = [("displaced", displaced), ("id", id), ("status", status)] := by
    rw [Json.settle, List.foldl_cons, List.foldl_cons, List.foldl_cons, List.foldl_nil]
    show Json.put "displaced" displaced (Json.put "id" id (Json.put "status" status [])) = _
    rw [Json.put, Json.put, if_pos (by decide), Json.put, if_pos (by decide)]
  cases displaced <;>
    exact congrArg (fun members => Reply.of (.object members)) (inOrder _ _ _)

/-- The reply to an accepted battle reports its id. -/
theorem reportedId?_accepted (id : String) (displaced : Option Battle) :
    (Reply.of (.object (acceptance id displaced))).reportedId? = some id := by
  show Reply.reportedId? ⟨.ok, (Json.object (acceptance id displaced)).pretty⟩ = _
  rw [Reply.reportedId?, Json.ofText, Json.read_pretty (plain_acceptance id displaced)]
  cases displaced <;>
    simp [acceptance, Json.tree, Json.memberTrees, Json.Node.hold, Json.holdMembers,
      Json.greatestDepth, Json.ofOption, Json.ObjectEnd.fault?, Json.settled, Json.settledMembers,
      Json.lookup_settle, Json.given, Json.lookup_member, Except.map]

/-- An accepted battle is held under the id that the reply reports. -/
theorem held_of_accepted {s : Server} (sound : s.archive.Sound) {now : Instant} {body : String}
    (accepted : (s.receive now body).2.status = .ok) :
    ∃ b : Battle, (s.receive now body).2.reportedId? = some b.id ∧
      (s.receive now body).1.archive.get? b.id = some b := by
  unfold receive at accepted ⊢
  cases read : Battle.ofText body with
  | error e =>
    rw [read] at accepted
    cases accepted
  | ok b =>
    refine ⟨b, ?_, sound.get?_insert ⟨now, b⟩⟩
    dsimp only
    rw [reply_accepted]
    exact reportedId?_accepted b.id _

/-- A battle that is held is read back through a view exactly when its id can be addressed. -/
theorem isAbout_view_iff {s : Server} (sound : s.archive.Sound) {b : Battle}
    (held : s.archive.get? b.id = some b) {r : Request} {v : BattleView} (asks : r.Asks v b.id)
    (now : Instant) : (s.respond now r).2.IsAbout b.id ↔ Addressable b.id := by
  constructor
  · intro about
    -- no other place that the target leads to has a reply about the battle
    rcases asks.route?_cases with nowhere | battles | ⟨w, other, addressable, view⟩
    · rw [respond_nowhere nowhere] at about
      exact absurd about (Reply.not_isAbout_refusal _)
    · rw [respond_battles battles] at about
      exact absurd about (not_isAbout_battlesReply s _)
    · rw [respond_view view] at about
      exact id_of_isAbout sound about ▸ addressable
  · intro addressable
    rw [respond_view (asks.route? addressable), aboutBattle, held]
    exact v.isAbout_reply s b

/-- An accepted battle is read back under the id that the reply reports, whichever view is asked
for, exactly when the id has no slash and no question mark in it. -/
theorem read_back_iff {s : Server} (reached : s.Reached) (now : Instant) {post : Request}
    (posts : post.PostsBattle) (accepted : (s.respond now post).2.status = .ok) :
    ∃ id, (s.respond now post).2.reportedId? = some id ∧
      ∀ later (get : Request) v, get.Asks v id →
        (((s.respond now post).1.respond later get).2.IsAbout id ↔
          '/' ∉ id.toList ∧ '?' ∉ id.toList) := by
  rw [respond_battle posts] at accepted ⊢
  obtain ⟨b, reported, held⟩ := held_of_accepted reached.sound accepted
  exact ⟨b.id, reported, fun later get v asks =>
    isAbout_view_iff (sound_receive reached.sound now post.body) held asks later⟩

/-- A battle whose id has blanks and an accent. -/
theorem read_back_accented :
    let s := start {} {} ⟨0, 0⟩
    let post : Request := { method := "POST", target := "/api/battles", body := "[\" 7-2 é\"]" }
    let get : Request := { method := "GET", target := "/api/battles/ 7-2 é/summary" }
    (s.respond ⟨0, 0⟩ post).2.status = .ok ∧
      ((s.respond ⟨0, 0⟩ post).1.respond ⟨1, 0⟩ get).2.IsAbout " 7-2 é" := by
  intro s post get
  have posts : post.PostsBattle := by decide +kernel
  have accepted : (s.respond ⟨0, 0⟩ post).2.status = .ok := by decide +kernel
  have reported : (s.respond ⟨0, 0⟩ post).2.reportedId? = some " 7-2 é" := by decide +kernel
  have reached : s.Reached := ⟨{}, {}, ⟨0, 0⟩, [], rfl⟩
  obtain ⟨id, same, readBack⟩ := read_back_iff reached ⟨0, 0⟩ posts accepted
  obtain rfl := Option.some.inj (same.symm.trans reported)
  exact ⟨accepted, (readBack ⟨1, 0⟩ get .summary (by decide +kernel)).mpr (by decide +kernel)⟩

/-- A battle with a slash in its id is accepted and listed, and neither of its views is found. -/
theorem lost_of_slash :
    let s := start {} {} ⟨0, 0⟩
    let post : Request := { method := "POST", target := "/api/battles", body := "[\"7/2\"]" }
    let after := (s.respond ⟨0, 0⟩ post).1
    (s.respond ⟨0, 0⟩ post).2.status = .ok ∧
      (s.respond ⟨0, 0⟩ post).2.reportedId? = some "7/2" ∧
      after.archive.entries.map (·.id) = ["7/2"] ∧
      (after.respond ⟨1, 0⟩ { method := "GET", target := "/api/battles/7/2/summary" }).2
        = Refusal.noRoute.reply ∧
      (after.respond ⟨1, 0⟩ { method := "GET", target := "/api/battles/7/2/phases" }).2
        = Refusal.noRoute.reply := by
  decide +kernel

end Server

end Flotilla
