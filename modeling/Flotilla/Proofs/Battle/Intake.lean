import Flotilla.Proofs.Battle.HitPoints
import Flotilla.Proofs.Battle.Strikes
import Flotilla.Proofs.Record.Fields

/-! # What an accepted battle holds

The strikes and salvos of an accepted battle stand in the order in which the text gives their
lists, one for each. The outcomes of a strike are one for each place that its lists reach, each
made of the elements at its own place only, and so are those of a salvo. Whatever numbers stand in
the lists, no damage is below zero, and a hit is a miss when it did none. -/
namespace Flotilla.Battle

open Flotilla.Json (Node)
open Flotilla.Record

/-! ## The parts of a battle -/

def Phase.strikes : Phase → List AirStrike
  | .air p => p.friendly.toList ++ p.enemy.toList
  | .support p => p.air.toList
  | .torpedo _ | .shelling _ => []

def Phase.salvos : Phase → List Salvo
  | .torpedo p => p.friendly.toList ++ p.enemy.toList
  | .air _ | .shelling _ | .support _ => []

def Phase.attacks : Phase → List ShellingAttack
  | .shelling p => p.attacks
  | .air _ | .torpedo _ | .support _ => []

def Phase.barrages : Phase → List Barrage
  | .support p => p.barrage.toList
  | .air _ | .torpedo _ | .shelling _ => []

/-- The air strikes of a battle, those of support phases among them. -/
def strikes (b : Battle) : List AirStrike := b.phases.flatMap (·.strikes)

def salvos (b : Battle) : List Salvo := b.phases.flatMap (·.salvos)

def attacks (b : Battle) : List ShellingAttack := b.phases.flatMap (·.attacks)

def barrages (b : Battle) : List Barrage := b.phases.flatMap (·.barrages)

/-! ## The trees of these parts

A part stands under its name in an object, and at its place in a list. A phase is told by its tag,
and its parts stand in what is left of it without the tag. -/

/-- The trees of the segments that the tree of a battle gives. -/
def segmentTrees (battle : Node) : List Node :=
  (presentIn "day" 7 battle).toList ++ (presentIn "night" 8 battle).toList

def phaseTrees (battle : Node) : List Node :=
  (segmentTrees battle).flatMap (listedIn "phases" 2)

/-- The kind of a phase and the tree of its content. -/
def contentOf? (phase : Node) : Option (PhaseKind × Node) :=
  match takeTagged PhaseKind.tag "Phase" PhaseKind.known phaseRoom phase with
  | .ok (kind, content) => some (kind, content.node)
  | .error _ => none

def strikesIn (phase : Node) : List Node :=
  match contentOf? phase with
  | some (.air, content) =>
    (presentIn "friendly" 2 content).toList ++ (presentIn "enemy" 3 content).toList
  | some (.support, content) => (presentIn "air" 0 content).toList
  | _ => []

def salvosIn (phase : Node) : List Node :=
  match contentOf? phase with
  | some (.torpedo, content) =>
    (presentIn "friendly" 1 content).toList ++ (presentIn "enemy" 2 content).toList
  | _ => []

/-- The trees of the air strikes that the tree of a battle gives. -/
def strikeTrees (battle : Node) : List Node := (phaseTrees battle).flatMap strikesIn

/-- The trees of the torpedo salvos that the tree of a battle gives. -/
def salvoTrees (battle : Node) : List Node := (phaseTrees battle).flatMap salvosIn

/-! ## Each part is read from its tree -/

theorem layout_owns_day : layout.Owns "day" 7 (readOption Segment.layout.read) Battle.day :=
  Layout.owns_default (by decide) rfl (fun _ _ => rfl) (by simp [layout])

theorem layout_owns_night :
    layout.Owns "night" 8 (readOption Segment.layout.read) Battle.night :=
  Layout.owns_default (by decide) rfl (fun _ _ => rfl) (by simp [layout])

theorem Segment.layout_owns_phases :
    Segment.layout.Owns "phases" 2 (readList Phase.read) Segment.phases :=
  Layout.owns_default (by decide) rfl (fun _ _ => rfl) (by simp [Segment.layout])

theorem AirPhase.layout_owns_friendly :
    AirPhase.layout.Owns "friendly" 2 (readOption AirStrike.read) AirPhase.friendly :=
  Layout.owns_default (by decide) rfl (fun _ _ => rfl) (by simp [AirPhase.layout])

theorem AirPhase.layout_owns_enemy :
    AirPhase.layout.Owns "enemy" 3 (readOption AirStrike.read) AirPhase.enemy :=
  Layout.owns_default (by decide) rfl (fun _ _ => rfl) (by simp [AirPhase.layout])

theorem TorpedoPhase.layout_owns_friendly :
    TorpedoPhase.layout.Owns "friendly" 1 (readOption Salvo.read) TorpedoPhase.friendly :=
  Layout.owns_default (by decide) rfl (fun _ _ => rfl) (by simp [TorpedoPhase.layout])

theorem TorpedoPhase.layout_owns_enemy :
    TorpedoPhase.layout.Owns "enemy" 2 (readOption Salvo.read) TorpedoPhase.enemy :=
  Layout.owns_default (by decide) rfl (fun _ _ => rfl) (by simp [TorpedoPhase.layout])

theorem SupportPhase.layout_owns_air :
    SupportPhase.layout.Owns "air" 0 (readOption AirStrike.read) SupportPhase.air :=
  Layout.owns_default (by decide) rfl (fun _ _ => rfl) (by simp [SupportPhase.layout])

theorem reads_segments {n : Node} {b : Battle} (h : layout.read n = .ok b) :
    List.Forall₂ (Reads Segment.layout.read) (segmentTrees n) (b.segments.map (·.2)) := by
  rw [segments_eq]
  exact List.rel_append (layout_owns_day.reads_option rfl h) (layout_owns_night.reads_option rfl h)

theorem reads_phases {n : Node} {b : Battle} (h : layout.read n = .ok b) :
    List.Forall₂ (Reads Phase.read) (phaseTrees n) b.phases :=
  List.rel_flatMap (reads_segments h) fun _ _ hs => Segment.layout_owns_phases.reads_list rfl hs

/-- A phase is read from its content, as its kind says. -/
theorem Phase.content_of_read {n : Node} {p : Phase} (h : Phase.read n = .ok p) :
    ∃ kind content, Phase.ofContent content kind = .ok p ∧
      contentOf? n = some (kind, content.node) := by
  simp only [Phase.read] at h
  split at h
  · cases h
  · rename_i kind content taken
    exact ⟨kind, content, h, by rw [contentOf?, taken]⟩

theorem Phase.reads_strikes {n : Node} {p : Phase} (h : Reads Phase.read n p) :
    List.Forall₂ (Reads AirStrike.read) (strikesIn n) p.strikes := by
  obtain ⟨kind, content, given, found⟩ := Phase.content_of_read h
  rw [strikesIn, found]
  cases kind <;> obtain ⟨p, hp, rfl⟩ := ok_of_map given
  · exact List.rel_append (AirPhase.layout_owns_friendly.reads_option rfl hp)
      (AirPhase.layout_owns_enemy.reads_option rfl hp)
  · exact .nil
  · exact .nil
  · exact SupportPhase.layout_owns_air.reads_option rfl hp

theorem Phase.reads_salvos {n : Node} {p : Phase} (h : Reads Phase.read n p) :
    List.Forall₂ (Reads Salvo.read) (salvosIn n) p.salvos := by
  obtain ⟨kind, content, given, found⟩ := Phase.content_of_read h
  rw [salvosIn, found]
  cases kind <;> obtain ⟨p, hp, rfl⟩ := ok_of_map given
  · exact .nil
  · exact List.rel_append (TorpedoPhase.layout_owns_friendly.reads_option rfl hp)
      (TorpedoPhase.layout_owns_enemy.reads_option rfl hp)
  · exact .nil
  · exact .nil

/-! ## Outcomes and the elements they are made of -/

/-- The outcome that elements of lists at one place stand for. An absent element is no damage, no
flag, or an unknown hit point. -/
def StrikeEntry.ofElements (place : Nat) (nowHp : Option Int64) (damage : Option Float)
    (bombing torpedo shielding critical : Option Int64) : StrikeEntry :=
  let taken := decodeDamage (damage.getD 0.0)
  { index := place
    nowHp
    damage := taken.amount
    bombed := bombing.any (0 < ·)
    torpedoed := torpedo.any (0 < ·)
    shielded := taken.shielded || shielding.any (0 < ·)
    hit := classify (some taken.amount) critical }

/-- What elements of lists at one place stand for in a salvo. -/
def Received.ofElements (damage : Option Float) (critical : Option Int64) : Received :=
  let taken := decodeDamage (damage.getD 0.0)
  ⟨taken.amount, critical, taken.shielded⟩

theorem damage_nonneg (raw : Float) : 0 ≤ (decodeDamage raw).amount := by
  rw [Int64.le_iff_toInt_le]
  exact decodeDamage_nonneg raw

/-- An air strike in step with its lists: its launching ships are the entries that are not below
zero, in order, and its outcomes go as far as the longest list but that of the shields, each made
of the elements at its place. -/
structure AirStrike.InStep (l : StrikeLists) (s : AirStrike) : Prop where
  planeFrom : s.planeFrom = (l.planeFrom.filter (0 ≤ ·)).map (·.toInt.toNat)
  size : s.targets.length = max l.nowHps.length (max l.damage.length
    (max l.bombing.length (max l.torpedo.length l.critical.length)))
  entry : ∀ (i : Nat) (e : StrikeEntry), s.targets[i]? = some e →
    e = .ofElements i l.nowHps[i]? l.damage[i]? l.bombing[i]? l.torpedo[i]? l.shielding[i]?
      l.critical[i]?
  index : ∀ (i : Nat) (e : StrikeEntry), s.targets[i]? = some e → e.index = i
  nonneg : ∀ e ∈ s.targets, 0 ≤ e.damage
  miss : ∀ e ∈ s.targets, e.hit = .miss ↔ e.damage = 0

/-- A salvo in step with its lists: a launcher for each entry of the targets, with the place of the
entry, and what was received as far as the longer of the other two lists, each made of the elements
at its place. -/
structure Salvo.InStep (l : SalvoLists) (s : Salvo) : Prop where
  launcher : ∀ i : Nat, s.launchers[i]? = l.targets[i]?.map fun targets => ⟨i, targets⟩
  size : s.received.length = max l.damage.length l.critical.length
  received : ∀ (i : Nat) (r : Received), s.received[i]? = some r →
    r = .ofElements l.damage[i]? l.critical[i]?
  nonneg : ∀ r ∈ s.received, 0 ≤ r.damage

theorem getElem?_map_range {α : Type} {f : Nat → α} {size i : Nat} {a : α}
    (h : ((List.range size).map f)[i]? = some a) : a = f i := by
  rw [List.getElem?_map, Option.map_eq_some_iff] at h
  obtain ⟨j, hj, rfl⟩ := h
  rw [(List.getElem?_eq_some_iff.mp hj).2.symm.trans (List.getElem_range _)]

theorem StrikeLists.entry_eq (l : StrikeLists) (i : Nat) :
    l.entry i = .ofElements i l.nowHps[i]? l.damage[i]? l.bombing[i]? l.torpedo[i]?
      l.shielding[i]? l.critical[i]? := by
  rw [entry, damageAt, List.getD_eq_getElem?_getD]
  rfl

theorem StrikeLists.inStep_decode (l : StrikeLists) : l.decode.InStep l := by
  have entry : ∀ i e, l.decode.targets[i]? = some e → e = l.entry i :=
    fun _ _ he => getElem?_map_range he
  constructor
  case planeFrom => exact filterMap_position? l.planeFrom
  case size =>
    show ((List.range l.size).map l.entry).length = _
    rw [List.length_map, List.length_range, StrikeLists.size]
    simp only [List.foldl_cons, List.foldl_nil, Nat.zero_max, Nat.max_assoc]
  case entry => exact fun i e he => (entry i e he).trans (l.entry_eq i)
  case index => exact fun i e he => by rw [entry i e he]; rfl
  case nonneg =>
    intro e he
    obtain ⟨i, -, rfl⟩ := List.mem_map.mp he
    exact damage_nonneg _
  case miss =>
    intro e he
    obtain ⟨i, -, rfl⟩ := List.mem_map.mp he
    exact classify_eq_miss

theorem SalvoLists.inStep_decode (l : SalvoLists) : l.decode.InStep l := by
  constructor
  case launcher =>
    intro i
    rw [SalvoLists.decode, List.getElem?_map, List.getElem?_zipIdx]
    cases l.targets[i]? <;> simp
  case size =>
    show ((List.range _).map _).length = _
    rw [List.length_map, List.length_range]
  case received =>
    intro i r hr
    rw [getElem?_map_range hr, receivedAt, damageAt, List.getD_eq_getElem?_getD]
    rfl
  case nonneg =>
    intro r hr
    obtain ⟨i, -, rfl⟩ := List.mem_map.mp hr
    exact damage_nonneg _

/-! ## Accepted battles -/

/-- A battle in line with the tree of its text. It has an id, its strikes and salvos are those of
the tree in their order, each in step with the lists that the tree gives for it, and the damage in
its other parts is not below zero either. -/
structure WellFormed (tree : Node) (b : Battle) : Prop where
  named : Text.blank b.id = false
  strikes : List.Forall₂ (fun n s => ∃ l, StrikeLists.layout.read n = .ok l ∧ s.InStep l)
    (strikeTrees tree) b.strikes
  salvos : List.Forall₂ (fun n s => ∃ l, SalvoLists.layout.read n = .ok l ∧ s.InStep l)
    (salvoTrees tree) b.salvos
  hits : ∀ a ∈ b.attacks, ∀ t ∈ a.hits, 0 ≤ t.damage ∧ (t.hit = .miss ↔ t.damage = 0)
  barrages : ∀ g ∈ b.barrages, ∀ r ∈ g.targets, 0 ≤ r.damage

theorem named_of_ofText {text : String} {b : Battle} (h : ofText text = .ok b) :
    Text.blank b.id = false := by
  simp only [ofText] at h
  split at h
  · cases h
  · split at h
    · cases h
    · rename_i named
      cases h
      exact Bool.eq_false_iff.mpr named

theorem attack_decoded {b : Battle} (h : b.Decoded) {a : ShellingAttack} (ha : a ∈ b.attacks) :
    a.Decoded := by
  obtain ⟨p, hp, ha⟩ := List.mem_flatMap.mp ha
  have decoded := h.phases p hp
  cases p with
  | shelling p => exact decoded a ha
  | _ => cases ha

theorem barrage_decoded {b : Battle} (h : b.Decoded) {g : Barrage} (hg : g ∈ b.barrages) :
    g.Decoded := by
  obtain ⟨p, hp, hg⟩ := List.mem_flatMap.mp hg
  have decoded := h.phases p hp
  cases p with
  | support p => exact decoded.2 g (Option.mem_toList.mp hg)
  | _ => cases hg

theorem ShellingAttack.Decoded.miss {a : ShellingAttack} (h : a.Decoded) :
    ∀ t ∈ a.hits, t.hit = .miss ↔ t.damage = 0 := by
  obtain ⟨l, rfl⟩ := h
  intro t ht
  obtain ⟨x, -, hx⟩ := List.mem_filterMap.mp ht
  obtain ⟨q, -, rfl⟩ := Option.map_eq_some_iff.mp hx
  exact classify_eq_miss

/-- Every accepted battle is well formed, whatever numbers the text has and however far its lists
reach. -/
theorem wellFormed_of_ofText {text : String} {b : Battle} (h : ofText text = .ok b) :
    b.WellFormed (Json.Document.read text.toList).root := by
  have phases := reads_phases (read_of_readText? (read_of_ofText h))
  have decoded := decoded_of_ofText h
  constructor
  case named => exact named_of_ofText h
  case strikes =>
    have read := List.rel_flatMap phases fun _ _ hp => Phase.reads_strikes hp
    refine read.imp fun n s hs => ?_
    obtain ⟨l, lists, rfl⟩ := ok_of_map hs
    exact ⟨l, lists, l.inStep_decode⟩
  case salvos =>
    have read := List.rel_flatMap phases fun _ _ hp => Phase.reads_salvos hp
    refine read.imp fun n s hs => ?_
    obtain ⟨l, lists, rfl⟩ := ok_of_map hs
    exact ⟨l, lists, l.inStep_decode⟩
  case hits =>
    intro a ha t ht
    have attack := attack_decoded decoded ha
    exact ⟨Int64.le_iff_toInt_le.mpr (attack.nonneg t ht), attack.miss t ht⟩
  case barrages =>
    intro g hg r hr
    exact Int64.le_iff_toInt_le.mpr ((barrage_decoded decoded hg).nonneg r hr)

/-- A feed with lists of unequal lengths, a launcher without targets, and damage below zero, in
fractions and beyond all integers. -/
def raggedText : String :=
  "[\"8\",0,0,0,1,0,[],null,[[],[]," ++
    "[[\"air\",\"opening\",null,[0,[2,-1,0],[],[30],[-4,7.1,1e30],[],[0,1]]]," ++
    "[\"torpedo\",\"closing\",null,[[[1,2],null,-1],[0.5],[0,2]]],[\"support\",null,[[-1]]]]]]"

/-- The battle that the feed gives. -/
def ragged : Battle where
  id := "8"
  night := some
    { phases := [
        .air
          { friendly := some ⟨none, [2, 0], [],
              [⟨0, some 30, 0, false, false, false, .miss⟩,
                ⟨1, none, 7, false, true, true, .normal⟩,
                ⟨2, none, Int64.maxValue, false, false, false, .normal⟩]⟩ },
        .torpedo
          { stage := .closing
            enemy := some ⟨[⟨0, [1, 2]⟩, ⟨1, []⟩, ⟨2, [-1]⟩],
              [⟨0, some 0, true⟩, ⟨0, some 2, false⟩]⟩ },
        .support { barrage := some ⟨[{}]⟩ }] }

theorem ofText_ragged : ofText raggedText = .ok ragged := by decide +kernel

/-- The text of that feed gives the lists of one strike and of one salvo. -/
theorem wellFormed_ragged :
    let tree := (Json.Document.read raggedText.toList).root
    ofText raggedText = .ok ragged ∧ ragged.WellFormed tree ∧
      (strikeTrees tree).length = 1 ∧ (salvoTrees tree).length = 1 := by
  have wellFormed := wellFormed_of_ofText ofText_ragged
  exact ⟨ofText_ragged, wellFormed, wellFormed.strikes.length_eq, wellFormed.salvos.length_eq⟩

end Flotilla.Battle
