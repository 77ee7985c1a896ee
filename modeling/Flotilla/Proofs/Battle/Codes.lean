import Flotilla.Battle.Summary
import Flotilla.Proofs.Battle.Feed
import Flotilla.Proofs.Record.Fields
import Flotilla.Proofs.Store.Defects
import Flotilla.Proofs.Store.RoundTrip

/-! # Codes of combined fleets

A snapshot and a battle give the mode of the first fleet as an integer. The codes 1 to 3 have a mode
that combines it. Any other code is read as that of a single fleet: formations, the audit and
summaries treat the fleet as single, and saved again the code is 0. -/
namespace Flotilla.Store

open Flotilla.Json (Node)
open Flotilla.Record

/-! ## Codes -/

/-- A code with a mode that combines the first fleet. -/
def Combining (code : Int64) : Prop := code = 1 ∨ code = 2 ∨ code = 3

instance (code : Int64) : Decidable (Combining code) := inferInstanceAs (Decidable (_ ∨ _))

theorem isCombined_ofCode (code : Int64) :
    (CombinedMode.ofCode code).isCombined = decide (Combining code) := by
  unfold CombinedMode.ofCode Combining
  split
  · simp [CombinedMode.isCombined, *]
  · split
    · simp [CombinedMode.isCombined, *]
    · split <;> simp [CombinedMode.isCombined, *]

/-- A code without a mode is not written again. -/
theorem code_ofCode (code : Int64) :
    (CombinedMode.ofCode code).code = if Combining code then code else 0 := by
  unfold CombinedMode.ofCode Combining
  split
  · simp [CombinedMode.code, *]
  · split
    · simp [CombinedMode.code, *]
    · split <;> simp [CombinedMode.code, *]

/-- The code that the text of a snapshot or of a battle gives. -/
def codeOf? (text : String) : Option Int64 :=
  (valueOf? "combined" 5 (Json.Document.read text.toList).root).bind fun v => (readInt64 v).toOption

/-- The mode of a record that is read from a text is that of the code in the text. -/
theorem mode_of_code {ρ : Type} {l : Layout ρ} {get : ρ → CombinedMode}
    (owns : l.Owns "combined" 5 CombinedMode.codec.read get) {text : String} {r : ρ}
    (hr : readText? l.read text = .ok r) {code : Int64} (coded : codeOf? text = some code) :
    get r = .ofCode code := by
  obtain ⟨v, there, given⟩ := Option.bind_eq_some_iff.mp coded
  have value := owns.text hr there
  obtain ⟨code', here, mode⟩ := ok_of_map value
  rw [here] at given
  obtain rfl := Option.some.inj given
  exact mode.symm

theorem snapshot_owns_combined :
    Layout.Owns ⟨"struct NormalizedStore", {}, columns.map Column.toField⟩ "combined" 5
      CombinedMode.codec.read Store.combined :=
  Layout.owns_default (by decide) rfl (fun _ _ => rfl) (by simp [columns, Column.default])

theorem combined_of_ofText {text : String} {s : Store} (loaded : ofText text = .ok s) {code : Int64}
    (coded : codeOf? text = some code) : s.combined = .ofCode code := by
  obtain ⟨s', read, rfl⟩ := ok_of_map loaded
  exact mode_of_code snapshot_owns_combined read coded

/-- The snapshot of a store gives the code of its mode. -/
theorem codeOf?_toText (s : Store) : codeOf? s.toText = some s.combined.code := by
  have root : (Json.Document.read s.toText.toList).root = (snapshot.write s).tree := by
    rw [toText, Json.read_pretty (snapshot_lawful.plain s)]
  rw [codeOf?, root]
  show Option.bind (valueOf? "combined" 5 (.object (Json.memberTrees _) .closed)) _ = _
  rw [memberTrees_map]
  have given : readInt64 (int64.write s.combined.code).tree = .ok s.combined.code :=
    int64_lawful.read s.combined.code
  simp [valueOf?, columnTrees, columns, isNamed, Column.default, Field.default,
    CombinedMode.codec, given, Except.toOption]

/-! ## The first fleet -/

/-- What a store makes of its first fleet when it has a roster: whether it is combined, who stands
in its escort, the length at which the audit finds fault, and what a saved snapshot keeps of it. -/
structure Treats (s : Store) (roster : List Int64) (combined : Bool) : Prop where
  flag : (formation s.fleets 1 s.combined).combined = combined
  positions : (formation s.fleets 1 s.combined).escort.map (·.position)
    = List.range' 6 (min roster.length (if combined then 12 else 6) - 6)
  ships : ∀ b ∈ (formation s.fleets 1 s.combined).escort,
    b.shipId = roster[b.position]?.filter (0 < ·)
  long : ∀ length limit, .rosterTooLong 1 length limit ∈ s.audit ↔
    length = roster.length ∧ limit = (if combined then 12 else 6) ∧ limit < length
  saved : ∀ files path files', s.saveTo files path = (files', .ok ()) →
    ∃ s', load files' path = .ok s' ∧ s'.combined.isCombined = combined

theorem Arranged.treats {s : Store} (h : s.Arranged) {f : Fleet}
    (first : s.fleets.get? 1 = some f) : s.Treats f.shipIds s.combined.isCombined := by
  have limit : usable s.combined 1 = if s.combined.isCombined then 12 else 6 := by
    simp [usable_eq]
  have roster := rosterOf_of_get? first
  have positions := positions_escort s.fleets 1 s.combined
  rw [roster, limit] at positions
  constructor
  case flag =>
    rw [formation_eq]
    simp [combinedIn, combinedFleetId]
  case positions => exact positions
  case ships =>
    intro b hb
    have member : b ∈ (formation s.fleets 1 s.combined).berths := List.mem_append_right _ hb
    have inside := List.mem_map_of_mem (f := (·.position)) hb
    rw [positions, List.mem_range'_1] at inside
    rw [shipId_of_mem_berths _ _ _ member, roster, limit, stationed, if_pos (by omega)]
  case long =>
    intro length most
    rw [rosterTooLong_mem_audit, first, limit]
    constructor
    · rintro ⟨_, ⟨⟩, rfl, rfl, exceeds⟩
      exact ⟨rfl, rfl, exceeds⟩
    · rintro ⟨rfl, rfl, exceeds⟩
      exact ⟨f, rfl, rfl, rfl, exceeds⟩
  case saved =>
    intro files path files' saved
    exact ⟨s, h.load_saved saved, rfl⟩

end Flotilla.Store

namespace Flotilla.Battle

open Flotilla.Record Flotilla.Store

theorem layout_owns_combined :
    layout.Owns "combined" 5 CombinedMode.codec.read Battle.combined :=
  Layout.owns_default (by decide) rfl (fun _ _ => rfl) (by simp [layout])

theorem combined_of_ofText {text : String} {b : Battle} (accepted : ofText text = .ok b)
    {code : Int64} (coded : codeOf? text = some code) : b.combined = .ofCode code :=
  mode_of_code layout_owns_combined (read_of_ofText accepted) coded

/-- What is made of a code: the store of a snapshot with it treats its first fleet as combined, and
a summary of a battle with it shows that fleet combined, when the code has such a mode, and
otherwise as single. Saved again, a code without such a mode is 0. -/
theorem treats_of_code {text : String} {s : Store} {code : Int64} {f : Fleet}
    (loaded : Store.ofText text = .ok s) (coded : codeOf? text = some code)
    (first : s.fleets.get? 1 = some f) :
    s.Treats f.shipIds (Combining code) ∧
      codeOf? s.toText = some (if Combining code then code else 0) ∧
      ∀ battleText b, ofText battleText = .ok b → codeOf? battleText = some code →
        ((summarize s b).combined = true ↔ Combining code ∧ b.fleetId = 1) := by
  have mode : s.combined = .ofCode code := Store.combined_of_ofText loaded coded
  have treats := (arranged_of_ofText loaded).treats first
  rw [mode, isCombined_ofCode] at treats
  refine ⟨treats, ?_, fun battleText b accepted given => ?_⟩
  · rw [codeOf?_toText, mode, code_ofCode]
  · have combined : b.combined = .ofCode code := combined_of_ofText accepted given
    have shown : (summarize s b).combined = combinedIn b.combined b.fleetId := by
      simp only [summarize, formation_eq]
    rw [shown, combined, combinedIn, isCombined_ofCode]
    simp [combinedFleetId]

/-- A snapshot with a code, whose first fleet has seven ships. -/
def sevenText (code : String) : String :=
  "\x7b\"combined\":" ++ code ++
    ",\"fleets\":[\x7b\"id\":1,\"ship_ids\":[1,2,3,4,5,6,7]\x7d]\x7d"

/-- The store of that snapshot. -/
def seven (mode : CombinedMode) : Store where
  fleets := .ofList [{ id := 1, shipIds := [1, 2, 3, 4, 5, 6, 7] }]
  combined := mode

/-- A snapshot and a battle with the code of a surface task force. -/
theorem treats_of_code_two :
    (seven .surfaceTask).Treats [1, 2, 3, 4, 5, 6, 7] true ∧
      (summarize (seven .surfaceTask)
        { id := "1", fleetId := 1, combined := .surfaceTask }).combined = true := by
  have loaded : Store.ofText (sevenText "2") = .ok (seven .surfaceTask) := by decide +kernel
  have accepted : ofText "[\"1\",0,0,0,1,2]"
      = .ok { id := "1", fleetId := 1, combined := .surfaceTask } := by decide +kernel
  have first : (seven .surfaceTask).fleets.get? 1
      = some { id := 1, shipIds := [1, 2, 3, 4, 5, 6, 7] } := by decide +kernel
  have coded : codeOf? (sevenText "2") = some 2 := by decide +kernel
  obtain ⟨treats, -, battles⟩ := treats_of_code loaded coded first
  exact ⟨treats, (battles _ _ accepted (by decide +kernel)).mpr ⟨.inr (.inl rfl), rfl⟩⟩

/-- A code above those of the modes is not 0, and yet its fleet is single: the seventh ship is in no
escort. -/
theorem single_of_code_four :
    codeOf? (sevenText "4") = some 4 ∧ Store.ofText (sevenText "4") = .ok (seven .single) ∧
      (seven .single).fleets.get? 1 = some { id := 1, shipIds := [1, 2, 3, 4, 5, 6, 7] } ∧
      ¬ (seven .single).Treats [1, 2, 3, 4, 5, 6, 7] true := by
  refine ⟨by decide +kernel, by decide +kernel, by decide +kernel, fun treats => ?_⟩
  have single : (formation (seven .single).fleets 1 (seven .single).combined).combined = false := by
    decide +kernel
  exact Bool.noConfusion (single.symm.trans treats.flag)

end Flotilla.Battle
