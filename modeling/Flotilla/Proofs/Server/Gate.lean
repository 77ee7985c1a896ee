import Mathlib.Data.List.DropRight
import Flotilla.Proofs.Server.Durability
import Flotilla.Proofs.Server.Frame
import Flotilla.Settings.File

/-! # Who may sync

The token that a sync carries is trimmed before it is compared, and the token of the settings is
not. So the carrier of the token itself is admitted when the token has no blank at its ends, and
a sync without a token is refused unless the token of the settings is empty. -/
namespace Flotilla

namespace Text

/-- There is no blank at either end. -/
def Tight (cs : List Char) : Prop :=
  cs.head?.any isBlank = false ∧ cs.getLast?.any isBlank = false

instance (cs : List Char) : Decidable (Tight cs) := inferInstanceAs (Decidable (_ ∧ _))

theorem trimStart_eq_self {cs : List Char} :
    trimStart cs = cs ↔ cs.head?.any isBlank = false := by
  rw [trimStart, List.dropWhile_eq_self_iff]
  cases cs <;> simp

theorem trimEnd_eq_self {cs : List Char} :
    trimEnd cs = cs ↔ cs.getLast?.any isBlank = false := by
  show cs.rdropWhile isBlank = cs ↔ _
  rw [List.rdropWhile_eq_self_iff]
  cases hlast : cs.getLast? with
  | none =>
    obtain rfl := List.getLast?_eq_none_iff.mp hlast
    simp
  | some c =>
    obtain ⟨nonempty, rfl⟩ := List.mem_getLast?_eq_getLast hlast
    simp [nonempty]

/-- Trimming leaves those texts alone that have no blank at their ends. -/
theorem trim_eq_self {cs : List Char} : trim cs = cs ↔ Tight cs := by
  constructor
  · -- each of the two steps gives a part of its text, so neither can have dropped anything
    intro h
    have back : (trimEnd (trimStart cs)).length ≤ (trimStart cs).length :=
      (List.rdropWhile_prefix isBlank (l := trimStart cs)).length_le
    have front : trimStart cs = cs := by
      refine (List.dropWhile_suffix isBlank).eq_of_length_le ?_
      rw [← congrArg List.length h]
      exact back
    rw [trim, front] at h
    exact ⟨trimStart_eq_self.mp front, trimEnd_eq_self.mp h⟩
  · rintro ⟨front, back⟩
    rw [trim, trimStart_eq_self.mpr front, trimEnd_eq_self.mpr back]

end Text

namespace Settings

/-- A token out of the environment is not empty. -/
theorem ne_empty_of_given {env : Environment} {token : String}
    (h : given? env tokenVariable = some token) (s : Settings) :
    (s.overridden env).syncToken = some token ∧ token ≠ "" := by
  refine ⟨by rw [overridden, h]; rfl, ?_⟩
  rintro rfl
  obtain ⟨-, notBlank⟩ := Option.filter_eq_some_iff.mp h
  cases notBlank

end Settings

namespace Server

theorem admits_iff {s : Server} {wanted : String} (h : s.syncToken = some wanted)
    (token : Option String) :
    s.admits token = true ↔ Text.trim (token.getD "").toList = wanted.toList := by
  rw [admits, h]
  exact beq_iff_eq

theorem status_sync (s : Server) (token : Option String) (body : String) :
    (s.sync token body).2.status = .unauthorized ↔ s.admits token = false := by
  unfold sync
  split
  · rename_i refused
    simpa [Refusal.reply, Refusal.status] using refused
  · rename_i admitted
    have admitted : s.admits token = true := by simpa using admitted
    split <;> simp [admitted, Refusal.reply, Refusal.status, Reply.ofMap, Reply.of]

@[simp] theorem syncToken_respond (s : Server) (now : Instant) (r : Request) :
    (s.respond now r).1.syncToken = s.syncToken := by
  by_cases battle : r.PostsBattle
  · simp [respond_battle battle]
  by_cases sync : r.PostsSync
  · simp [respond_sync sync]
  simp [respond_other battle sync]

@[simp] theorem syncToken_run (s : Server) (requests : List (Instant × Request)) :
    (s.run requests).syncToken = s.syncToken := by
  induction requests generalizing s with
  | nil => rfl
  | cons x requests ih => exact (ih _).trans (syncToken_respond s x.1 x.2)

section

variable {s : Server} {wanted : String} (asked : s.syncToken = some wanted)
  {r : Request} (sync : r.PostsSync) (now : Instant)

include asked sync

theorem respond_unauthorized : (s.respond now r).2.status = .unauthorized ↔
    Text.trim (r.token.getD "").toList ≠ wanted.toList := by
  rw [respond_sync sync, status_sync, ← Bool.not_eq_true, admits_iff asked]

theorem respond_without_token (none_ : r.token = none) :
    (s.respond now r).2.status = .unauthorized ↔ wanted ≠ "" := by
  rw [respond_unauthorized asked sync now, none_]
  show [] ≠ wanted.toList ↔ _
  rw [ne_comm, ne_eq, String.toList_eq_nil_iff]

/-- The carrier of the token itself is refused exactly when the token has a blank at an end. A
sync without a token is refused, and changes nothing, exactly when the token is not empty. -/
theorem sync_gate :
    (r.token = some wanted →
      ((s.respond now r).2.status = .unauthorized ↔ ¬Text.Tight wanted.toList)) ∧
    (r.token = none → ((s.respond now r).2.status = .unauthorized ↔ wanted ≠ "") ∧
      (wanted ≠ "" → (s.respond now r).1 = s)) := by
  constructor
  · intro own
    rw [respond_unauthorized asked sync now, own]
    exact not_congr Text.trim_eq_self
  · intro none_
    have refused := respond_without_token asked sync now none_
    refine ⟨refused, fun nonempty => respond_refused ?_⟩
    rw [refused.mpr nonempty]
    decide

end

theorem sync_gate_secret :
    let s := start { syncToken := some "secret" } {} ⟨0, 0⟩
    let r : Request := { method := "POST", target := "/api/sync", body := "[]" }
    (s.respond ⟨1, 0⟩ { r with token := some "secret" }).2.status ≠ .unauthorized ∧
      (s.respond ⟨1, 0⟩ r).2.status = .unauthorized ∧ (s.respond ⟨1, 0⟩ r).1 = s := by
  intro s r
  have asked : s.syncToken = some "secret" := rfl
  have posts : r.PostsSync := by decide +kernel
  have holds : Request.PostsSync { r with token := some "secret" } := posts
  have tight : Text.Tight "secret".toList := by decide +kernel
  have nonempty : "secret" ≠ "" := by decide +kernel
  have holder := (sync_gate asked holds ⟨1, 0⟩).1 rfl
  have stranger := (sync_gate asked posts ⟨1, 0⟩).2 rfl
  exact ⟨fun refused => holder.mp refused tight, stranger.1.mpr nonempty, stranger.2 nonempty⟩

/-- When the token comes from the environment, a sync without a token is refused at any time. -/
theorem respond_of_environment {env : Environment} {token : String}
    (given : Settings.given? env Settings.tokenVariable = some token) (settings : Settings)
    (files : Files) (begin_ : Instant) (requests : List (Instant × Request)) {r : Request}
    (sync : r.PostsSync) (none_ : r.token = none) (now : Instant) :
    let s := (start (settings.overridden env) files begin_).run requests
    (s.respond now r).2.status = .unauthorized ∧ (s.respond now r).1 = s := by
  intro s
  obtain ⟨asked, nonempty⟩ := Settings.ne_empty_of_given given settings
  have asked : s.syncToken = some token := (syncToken_run _ requests).trans asked
  have refused := (respond_without_token asked sync now none_).mpr nonempty
  refine ⟨refused, respond_refused ?_⟩
  rw [refused]
  decide

/-- An empty token in a settings file lets a sync without a token through, and one with blanks
around it keeps its own carrier out. -/
theorem sync_gate_of_files :
    let r : Request := { method := "POST", target := "/api/sync", body := "[[\"combined_flag\",2]]" }
    (∃ settings, (Settings.ofText "sync_token: \"\"").toOption = some settings ∧
      settings.syncToken = some "" ∧
      let s := start settings {} ⟨0, 0⟩
      (s.respond ⟨1, 0⟩ r).2.status = .ok ∧
        (s.respond ⟨1, 0⟩ r).1.store.combined ≠ s.store.combined) ∧
    ∃ settings, (Settings.ofText "sync_token: \" s \"").toOption = some settings ∧
      settings.syncToken = some " s " ∧
      ((start settings {} ⟨0, 0⟩).respond ⟨1, 0⟩ { r with token := some " s " }).2.status
        = .unauthorized := by
  refine ⟨⟨{ syncToken := some "" }, ?_⟩, { syncToken := some " s " }, ?_⟩ <;> decide +kernel

end Server

end Flotilla
