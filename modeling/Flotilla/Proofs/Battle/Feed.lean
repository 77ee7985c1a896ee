import Mathlib.Control.Monad.Basic
import Flotilla.Battle.Feed
import Flotilla.Proofs.Record.Reading

/-! # Battles as the feed gives them

Every strike, salvo, attack and barrage of an accepted battle is the decoded form of
lists of the feed. So what holds of all decoded lists holds of all accepted battles:
no damage is negative, and the outcomes of a strike stand at their own positions. -/
namespace Flotilla.Battle

open Flotilla.Record

/-- An air strike that stands for lists of the feed. -/
def AirStrike.Decoded (s : AirStrike) : Prop := ∃ l : StrikeLists, l.decode = s

/-- A salvo that stands for lists of the feed. -/
def Salvo.Decoded (s : Salvo) : Prop := ∃ l : SalvoLists, l.decode = s

/-- An attack that stands for lists of the feed. -/
def ShellingAttack.Decoded (a : ShellingAttack) : Prop := ∃ l : AttackLists, l.decode = a

/-- A barrage that stands for lists of the feed. -/
def Barrage.Decoded (b : Barrage) : Prop := ∃ l : BarrageLists, l.decode = b

/-- A phase whose parts stand for lists of the feed. -/
def Phase.Decoded : Phase → Prop
  | .air p => (∀ s ∈ p.friendly, s.Decoded) ∧ ∀ s ∈ p.enemy, s.Decoded
  | .torpedo p => (∀ s ∈ p.friendly, s.Decoded) ∧ ∀ s ∈ p.enemy, s.Decoded
  | .shelling p => ∀ a ∈ p.attacks, a.Decoded
  | .support p => (∀ s ∈ p.air, s.Decoded) ∧ ∀ b ∈ p.barrage, b.Decoded

/-- A segment whose phases stand for lists of the feed. -/
def Segment.Decoded (s : Segment) : Prop := ∀ p ∈ s.phases, p.Decoded

/-- A battle whose segments stand for lists of the feed. -/
def Decoded (b : Battle) : Prop := (∀ s ∈ b.day, s.Decoded) ∧ ∀ s ∈ b.night, s.Decoded

/-! ## Accepted battles are decoded -/

theorem AirStrike.gives_decoded : Gives AirStrike.read AirStrike.Decoded :=
  .map fun l => ⟨l, rfl⟩

theorem Salvo.gives_decoded : Gives Salvo.read Salvo.Decoded :=
  .map fun l => ⟨l, rfl⟩

theorem ShellingAttack.gives_decoded : Gives ShellingAttack.read ShellingAttack.Decoded :=
  .map fun l => ⟨l, rfl⟩

theorem Barrage.gives_decoded : Gives Barrage.read Barrage.Decoded :=
  .map fun l => ⟨l, rfl⟩

theorem AirPhase.gives_decoded : Gives AirPhase.layout.read fun p => (Phase.air p).Decoded := by
  refine Layout.gives ⟨nofun, nofun⟩ fun f hf => ?_
  simp only [AirPhase.layout, List.mem_cons, List.not_mem_nil, or_false] at hf
  rcases hf with rfl | rfl | rfl | rfl
  · exact Field.frame_needs fun _ _ h => h
  · exact Field.frame_default fun _ _ h => h
  · exact Field.keeps_default (AirStrike.gives_decoded.option.mono fun _ hv _ h => ⟨hv, h.2⟩)
  · exact Field.keeps_default (AirStrike.gives_decoded.option.mono fun _ hv _ h => ⟨h.1, hv⟩)

theorem TorpedoPhase.gives_decoded :
    Gives TorpedoPhase.layout.read fun p => (Phase.torpedo p).Decoded := by
  refine Layout.gives ⟨nofun, nofun⟩ fun f hf => ?_
  simp only [TorpedoPhase.layout, List.mem_cons, List.not_mem_nil, or_false] at hf
  rcases hf with rfl | rfl | rfl
  · exact Field.frame_needs fun _ _ h => h
  · exact Field.keeps_default (Salvo.gives_decoded.option.mono fun _ hv _ h => ⟨hv, h.2⟩)
  · exact Field.keeps_default (Salvo.gives_decoded.option.mono fun _ hv _ h => ⟨h.1, hv⟩)

theorem ShellingPhase.gives_decoded :
    Gives ShellingPhase.layout.read fun p => (Phase.shelling p).Decoded := by
  refine Layout.gives nofun fun f hf => ?_
  simp only [ShellingPhase.layout, List.mem_cons, List.not_mem_nil, or_false] at hf
  rcases hf with rfl | rfl
  · exact Field.frame_needs fun _ _ h => h
  · exact Field.keeps_default (ShellingAttack.gives_decoded.list.mono fun _ hv _ _ => hv)

theorem SupportPhase.gives_decoded :
    Gives SupportPhase.layout.read fun p => (Phase.support p).Decoded := by
  refine Layout.gives ⟨nofun, nofun⟩ fun f hf => ?_
  simp only [SupportPhase.layout, List.mem_cons, List.not_mem_nil, or_false] at hf
  rcases hf with rfl | rfl
  · exact Field.keeps_default (AirStrike.gives_decoded.option.mono fun _ hv _ h => ⟨hv, h.2⟩)
  · exact Field.keeps_default (Barrage.gives_decoded.option.mono fun _ hv _ h => ⟨h.1, hv⟩)

theorem Phase.gives_decoded : Gives Phase.read Phase.Decoded := by
  intro n p h
  simp only [Phase.read] at h
  split at h
  · cases h
  · rename_i kind content _
    cases kind <;> obtain ⟨p, hp, rfl⟩ := ok_of_map h
    · exact AirPhase.gives_decoded _ _ hp
    · exact TorpedoPhase.gives_decoded _ _ hp
    · exact ShellingPhase.gives_decoded _ _ hp
    · exact SupportPhase.gives_decoded _ _ hp

theorem Segment.gives_decoded : Gives Segment.layout.read Segment.Decoded := by
  refine Layout.gives nofun fun f hf => ?_
  simp only [Segment.layout, List.mem_cons, List.not_mem_nil, or_false] at hf
  rcases hf with rfl | rfl | rfl
  · exact Field.frame_default fun _ _ h => h
  · exact Field.frame_default fun _ _ h => h
  · exact Field.keeps_default (Phase.gives_decoded.list.mono fun _ hv _ _ => hv)

theorem gives_decoded : Gives layout.read Decoded := by
  refine Layout.gives ⟨nofun, nofun⟩ fun f hf => ?_
  simp only [layout, List.mem_cons, List.not_mem_nil, or_false] at hf
  rcases hf with rfl | rfl | rfl | rfl | rfl | rfl | rfl | rfl | rfl
  · exact Field.frame_needs fun _ _ h => h
  · exact Field.frame_default fun _ _ h => h
  · exact Field.frame_default fun _ _ h => h
  · exact Field.frame_default fun _ _ h => h
  · exact Field.frame_default fun _ _ h => h
  · exact Field.frame_default fun _ _ h => h
  · exact Field.frame_default fun _ _ h => h
  · exact Field.keeps_default (Segment.gives_decoded.option.mono fun _ hv _ h => ⟨hv, h.2⟩)
  · exact Field.keeps_default (Segment.gives_decoded.option.mono fun _ hv _ h => ⟨h.1, hv⟩)

theorem read_of_ofText {text : String} {b : Battle} (h : ofText text = .ok b) :
    readText? layout.read text = .ok b := by
  simp only [ofText] at h
  split at h
  · cases h
  · rename_i hb
    split at h
    · cases h
    · cases h; exact hb

/-- An accepted battle stands for lists of the feed in all of its parts. -/
theorem decoded_of_ofText {text : String} {b : Battle} (h : ofText text = .ok b) : b.Decoded :=
  gives_decoded.text (read_of_ofText h)

theorem Decoded.segment {b : Battle} (h : b.Decoded) {s : SegmentKind × Segment}
    (hs : s ∈ b.segments) : s.2.Decoded := by
  simp only [segments, List.mem_append, Option.mem_toList, Option.map_eq_some_iff] at hs
  rcases hs with ⟨d, hd, rfl⟩ | ⟨d, hd, rfl⟩
  · exact h.1 d hd
  · exact h.2 d hd

/-! ## What holds of decoded parts -/

theorem decodeDamage_nonneg (raw : Float) : 0 ≤ (decodeDamage raw).amount.toInt := by
  unfold decodeDamage
  split
  · exact Int.le_of_eq rfl
  · rw [wholePart, Int64.toInt_ofNat_of_lt]
    · exact Int.natCast_nonneg _
    · exact Nat.lt_of_le_of_lt (Nat.min_le_right _ _) (by decide)

theorem AirStrike.Decoded.index {s : AirStrike} (h : s.Decoded) {p : Nat} {e : StrikeEntry}
    (he : s.targets[p]? = some e) : e.index = p := by
  obtain ⟨l, rfl⟩ := h
  rw [StrikeLists.decode, List.getElem?_map, Option.map_eq_some_iff] at he
  obtain ⟨q, hq, rfl⟩ := he
  exact (List.getElem?_eq_some_iff.mp hq).2.symm.trans (List.getElem_range _)

theorem AirStrike.Decoded.nonneg {s : AirStrike} (h : s.Decoded) :
    ∀ e ∈ s.targets, 0 ≤ e.damage.toInt := by
  obtain ⟨l, rfl⟩ := h
  intro e he
  obtain ⟨p, _, rfl⟩ := List.mem_map.mp he
  exact decodeDamage_nonneg _

theorem Salvo.Decoded.nonneg {s : Salvo} (h : s.Decoded) :
    ∀ r ∈ s.received, 0 ≤ r.damage.toInt := by
  obtain ⟨l, rfl⟩ := h
  intro r hr
  obtain ⟨p, _, rfl⟩ := List.mem_map.mp hr
  exact decodeDamage_nonneg _

theorem Barrage.Decoded.nonneg {b : Barrage} (h : b.Decoded) :
    ∀ r ∈ b.targets, 0 ≤ r.damage.toInt := by
  obtain ⟨l, rfl⟩ := h
  intro r hr
  obtain ⟨p, _, rfl⟩ := List.mem_map.mp hr
  exact decodeDamage_nonneg _

theorem ShellingAttack.Decoded.nonneg {a : ShellingAttack} (h : a.Decoded) :
    ∀ t ∈ a.hits, 0 ≤ t.damage.toInt := by
  obtain ⟨l, rfl⟩ := h
  intro t ht
  obtain ⟨⟨x, i⟩, _, hx⟩ := List.mem_filterMap.mp ht
  obtain ⟨q, _, rfl⟩ := Option.map_eq_some_iff.mp hx
  exact decodeDamage_nonneg _

/-! ## A short feed -/

/-- A feed with a salvo by day and an attack by night, both on the first friendly ship. -/
def skirmishText : String :=
  "[\"1\",0,0,0,1,0,[],[[[40]],[],[[\"torpedo\",\"opening\",null,[[0],[10]]]]]," ++
    "[[[30]],[],[[\"shelling\",\"night\",[[\"enemy\",0,0,[0],[32]]]]]]]"

/-- The battle that the feed gives. -/
def skirmish : Battle where
  id := "1"
  day := some
    { friendly := { nowHps := [40] }
      phases := [.torpedo { enemy := some ⟨[⟨0, [0]⟩], [{ damage := 10 }]⟩ }] }
  night := some
    { friendly := { nowHps := [30] }
      phases := [.shelling
        { stage := .night, attacks := [⟨.enemy, 0, 0, [⟨0, 32, none, false, .normal⟩]⟩] }] }

theorem ofText_skirmish : ofText skirmishText = .ok skirmish := by decide +kernel

end Flotilla.Battle
