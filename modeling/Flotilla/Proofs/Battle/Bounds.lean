import Flotilla.Proofs.Battle.Comparison

/-! # Bounds of hit points

The hit points that a summary knows are those that one of the segments leaves, and no segment leaves
less at any position. So they are never below zero and never above those at the start, and a side
has them at all positions that some segment gives a start for, or at none. -/
namespace Flotilla.Battle

/-! ## Segments with hit points -/

/-- The segments that give hit points for a side. -/
def givenFor (b : Battle) (side : Side) : List Segment :=
  (b.segments.map (·.2)).filter fun s => !(s.side side).nowHps.isEmpty

/-- The hit points at the start, from the first segment that gives them at the position. -/
def startAt (b : Battle) (side : Side) (position : Nat) : Option Int64 :=
  (b.segments.map (·.2)).findSome? fun s => (s.side side).nowHps[position]?

variable {b : Battle} {side : Side}

theorem mem_givenFor {s : Segment} :
    s ∈ b.givenFor side ↔ s ∈ b.segments.map (·.2) ∧ (s.side side).nowHps ≠ [] := by
  simp [givenFor, List.mem_filter]

theorem givenFor_of_getElem? {s : Segment} (hs : s ∈ b.segments.map (·.2)) {p : Nat} {start : Int64}
    (hp : (s.side side).nowHps[p]? = some start) : s ∈ b.givenFor side := by
  refine mem_givenFor.mpr ⟨hs, fun hnil => ?_⟩
  rw [hnil] at hp
  cases hp

theorem startAt_given {p : Nat} {start : Int64} (h : b.startAt side p = some start) :
    ∃ s ∈ b.givenFor side, (s.side side).nowHps[p]? = some start := by
  obtain ⟨s, hs, hp⟩ := List.exists_of_findSome?_eq_some h
  exact ⟨s, givenFor_of_getElem? hs hp, hp⟩

theorem startAt_isSome {s : Segment} (hs : s ∈ b.givenFor side) {p : Nat} {start : Int64}
    (hp : (s.side side).nowHps[p]? = some start) : (b.startAt side p).isSome :=
  List.findSome?_isSome_iff.mpr ⟨s, (mem_givenFor.mp hs).1, by rw [hp]; rfl⟩

/-! ## Where known hit points come from -/

/-- The hit points that a segment leaves a side, if it gives any for it. -/
def Segment.left? (s : Segment) (side : Side) : Option (List Int64) :=
  if (s.side side).nowHps.isEmpty then none else some (s.left side)

theorem Segment.map_after_ledger? (s : Segment) (side : Side) :
    (s.ledger? side).map Ledger.after = s.left? side := by
  by_cases given : (s.side side).nowHps = []
  · simp [ledger?, left?, SideHp.start?, given]
  · simp [ledger?_of_given given, left?, given, left]

theorem hitPoints_eq (b : Battle) (side : Side) :
    b.hitPoints side = reconcile (b.day.bind (·.left? side)) (b.night.bind (·.left? side)) := by
  simp only [hitPoints, reconcileLedgers, Option.map_bind, Function.comp_def,
    Segment.map_after_ledger?]

theorem toList_bind_left? (o : Option Segment) (side : Side) :
    (o.bind (·.left? side)).toList
      = (o.toList.filter fun s => !(s.side side).nowHps.isEmpty).map (·.left side) := by
  cases o with
  | none => rfl
  | some s =>
    by_cases given : (s.side side).nowHps = [] <;> simp [Segment.left?, given]

@[simp] theorem Reconciled.get_unknown (size : Nat) (source : HpSource) (p : Nat) :
    (Reconciled.unknown size source).get p = none := by
  rw [get, unknown, List.getElem?_replicate]
  split <;> rfl

/-- The hit points of a side are unknown, or they are what one of its segments leaves, and each of
them leaves at least that. -/
theorem hitPoints_cases (b : Battle) (side : Side) :
    (∀ p, (b.hitPoints side).get p = none) ∨
      ∃ s ∈ b.givenFor side, (∀ p, (b.hitPoints side).get p = (s.left side)[p]?) ∧
        ∀ t ∈ b.givenFor side, Below (s.left side) (t.left side) := by
  have given : (b.day.bind (·.left? side)).toList ++ (b.night.bind (·.left? side)).toList
      = (b.givenFor side).map (·.left side) := by
    rw [givenFor, segments_eq, List.filter_append, List.map_append, toList_bind_left?,
      toList_bind_left?]
  rcases reconcile_cases (b.day.bind (·.left? side)) (b.night.bind (·.left? side)) with
    ⟨size, source, heq⟩ | ⟨series, source, heq, hmem, below⟩
  · left
    intro p
    simp [hitPoints_eq, heq]
  · right
    rw [given] at hmem below
    obtain ⟨s, hs, rfl⟩ := List.mem_map.mp hmem
    refine ⟨s, hs, fun p => ?_, fun t ht => below _ (List.mem_map_of_mem ht)⟩
    rw [hitPoints_eq, heq, Reconciled.get_known]

/-! ## Between zero and the start -/

theorem Segment.Decoded.left_bounded {s : Segment} (hs : s.Decoded) {p : Nat} {start left : Int64}
    (hstart : (s.side side).nowHps[p]? = some start) (hleft : (s.left side)[p]? = some left) :
    0 ≤ left ∧ left ≤ max start 0 := by
  obtain rfl : remaining start ((s.damageTaken side).getD p 0) = left := by
    simpa [hstart] using hleft
  have damage := hs.damageTaken_nonneg side p
  rw [Int64.le_iff_toInt_le, Int64.le_iff_toInt_le, toInt_remaining start damage, toInt_max,
    Int64.toInt_zero]
  omega

theorem Segment.getElem?_left_isSome (s : Segment) (side : Side) (p : Nat) :
    ((s.left side)[p]?).isSome = ((s.side side).nowHps[p]?).isSome := by
  simp only [Segment.getElem?_left, Option.isSome_map]

/-- Known hit points are those of a position with a start, and lie between zero and it. -/
theorem Decoded.hitPoints_bounded (h : b.Decoded) {p : Nat} {hp : Int64}
    (known : (b.hitPoints side).get p = some hp) :
    ∃ start, b.startAt side p = some start ∧ 0 ≤ hp ∧ hp ≤ max start 0 := by
  rcases hitPoints_cases b side with unknown | ⟨s, hs, least, below⟩
  · rw [unknown] at known
    cases known
  · rw [least] at known
    have begun := s.getElem?_left_isSome side p
    rw [known] at begun
    obtain ⟨_, hbegun⟩ := Option.isSome_iff_exists.mp begun.symm
    obtain ⟨start, hstart⟩ := Option.isSome_iff_exists.mp (startAt_isSome hs hbegun)
    -- the segment that gives the start may be another one, which leaves no less
    obtain ⟨t, ht, htstart⟩ := startAt_given hstart
    obtain ⟨left, hleft, hle⟩ := (below t ht).getElem? known
    have low := (h.segments s (mem_givenFor.mp hs).1).left_bounded hbegun known
    have high := (h.segments t (mem_givenFor.mp ht).1).left_bounded htstart hleft
    exact ⟨start, hstart, low.1, Int64.le_trans hle high.2⟩

/-- A side has known hit points nowhere, or wherever it has a start. -/
theorem hitPoints_whole (b : Battle) (side : Side) :
    (∀ p, (b.hitPoints side).get p = none) ∨
      ∀ p, ((b.hitPoints side).get p).isSome = (b.startAt side p).isSome := by
  rcases hitPoints_cases b side with unknown | ⟨s, hs, least, below⟩
  · exact .inl unknown
  · right
    intro p
    rw [least, s.getElem?_left_isSome side p, Bool.eq_iff_iff]
    constructor
    · intro begun
      obtain ⟨start, hstart⟩ := Option.isSome_iff_exists.mp begun
      exact startAt_isSome hs hstart
    · intro started
      obtain ⟨start, hstart⟩ := Option.isSome_iff_exists.mp started
      obtain ⟨t, ht, htstart⟩ := startAt_given hstart
      rw [← s.getElem?_left_isSome side p, (below t ht).isSome_getElem?, t.getElem?_left_isSome,
        htstart]
      rfl

/-! ## Rows -/

theorem row_hitPoints (s : Store) {row : CombatantRow}
    (hrow : row ∈ ((summarize s b).side side).rows) :
    row.startHp = b.startAt side row.position ∧
      row.nowHp = (b.hitPoints side).get row.position := by
  obtain ⟨identity, p, rfl⟩ := mem_rows_summarize s hrow
  exact ⟨rfl, rfl⟩

/-- In the summary of an accepted battle, known hit points have a start in their row and lie between
zero and it. A side knows the hit points of none of its rows, or of all that have a start. -/
theorem hitPoints_within_start (s : Store) {text : String} {b : Battle} (h : ofText text = .ok b)
    (side : Side) :
    let rows := ((summarize s b).side side).rows
    (∀ row ∈ rows, ∀ hp ∈ row.nowHp, ∃ start, row.startHp = some start ∧
      0 ≤ hp ∧ hp ≤ max start 0) ∧
    ((∀ row ∈ rows, row.nowHp = none) ∨
      ∀ row ∈ rows, (row.nowHp.isSome ↔ row.startHp.isSome)) := by
  intro rows
  constructor
  · intro row hrow hp known
    obtain ⟨hstart, hnow⟩ := row_hitPoints s hrow
    rw [hnow] at known
    rw [hstart]
    exact (decoded_of_ofText h).hitPoints_bounded known
  · rcases hitPoints_whole b side with unknown | whole
    · left
      intro row hrow
      rw [(row_hitPoints s hrow).2, unknown]
    · right
      intro row hrow
      obtain ⟨hstart, hnow⟩ := row_hitPoints s hrow
      rw [hstart, hnow, whole]

/-- A feed whose first friendly ship starts below zero. The two segments agree on how many friendly
ships there are, and differ on how many enemies. -/
def wreckText : String :=
  "[\"wreck\",0,0,0,1,0,[]," ++
    "[[[-5,40]],[[20]],[[\"torpedo\",\"opening\",null,[[1],[0,10]]]]]," ++
    "[[[0,30]],[[20,20]],[[\"shelling\",\"night\",[[\"enemy\",0,0,[1],[5]]]]]]]"

/-- The battle that the feed gives. -/
def wreck : Battle where
  id := "wreck"
  day := some
    { friendly := { nowHps := [-5, 40] }
      enemy := { nowHps := [20] }
      phases := [.torpedo { enemy := some ⟨[⟨0, [1]⟩], [{ damage := 0 }, { damage := 10 }]⟩ }] }
  night := some
    { friendly := { nowHps := [0, 30] }
      enemy := { nowHps := [20, 20] }
      phases := [.shelling
        { stage := .night, attacks := [⟨.enemy, 0, 0, [⟨1, 5, none, false, .normal⟩]⟩] }] }

theorem ofText_wreck : ofText wreckText = .ok wreck := by decide +kernel

/-- Nothing is left of the ship that starts below zero, and of the enemies nothing is known. -/
theorem hitPoints_within_start_wreck :
    (∃ row ∈ ((summarize {} wreck).side .friendly).rows, row.startHp = some (-5) ∧
      ∃ hp ∈ row.nowHp, 0 ≤ hp ∧ hp ≤ max (-5) 0) ∧
    ∀ row ∈ ((summarize {} wreck).side .enemy).rows, row.nowHp = none ∧ row.startHp.isSome := by
  constructor
  · obtain ⟨row, hrow, hstart, hknown⟩ :
        ∃ row ∈ ((summarize {} wreck).side .friendly).rows, row.startHp = some (-5) ∧
          row.nowHp.isSome := by
      decide +kernel
    obtain ⟨hp, hmem⟩ := Option.isSome_iff_exists.mp hknown
    obtain ⟨start, heq, bounds⟩ :=
      (hitPoints_within_start {} ofText_wreck .friendly).1 row hrow hp hmem
    obtain rfl := Option.some.inj (hstart.symm.trans heq)
    exact ⟨row, hrow, hstart, hp, hmem, bounds⟩
  · have conflicting :=
      (hitPoints_within_start {} ofText_wreck .enemy).2.resolve_right (by decide +kernel)
    intro row hrow
    exact ⟨conflicting row hrow, by revert row; decide +kernel⟩

end Flotilla.Battle
