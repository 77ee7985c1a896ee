import Flotilla.Proofs.Battle.Summary

/-! # Hit points over a consistent battle

A feed is consistent for a side when each segment gives the hit points of the side,
and those of the night are what the day left. Then the two clamped reckonings of day
and night telescope: the hit points now are those at the start less the whole damage,
as exact integers, and never below zero. -/
namespace Flotilla.Battle

/-! ## What a ledger leaves -/

theorem toInt_remaining (start : Int64) {damage : Int64} (h : 0 ≤ damage.toInt) :
    (remaining start damage).toInt = max (start.toInt - damage.toInt) 0 := by
  have := start.toInt_le
  have low := Int64.toInt_minValue_lt_zero
  rw [remaining, toInt_max, subCapped, toInt_ofIntClamp_eq, capped_of_le (by omega),
    Int64.toInt_zero, Int.max_assoc, Int.max_eq_right (Int.le_of_lt low)]

theorem remaining_nonneg (start damage : Int64) : 0 ≤ (remaining start damage).toInt := by
  rw [remaining, toInt_max, Int64.toInt_zero]; omega

@[simp] theorem getElem?_remainingAll (ss ds : List Int64) (p : Nat) :
    (remainingAll ss ds)[p]? = ss[p]?.map fun s => remaining s (ds.getD p 0) := by
  induction ss generalizing ds p with
  | nil => rfl
  | cons s ss ih =>
    cases p with
    | zero => cases ds <;> rfl
    | succ p => cases ds <;> simp [remainingAll, ih]

@[simp] theorem length_remainingAll (ss ds : List Int64) :
    (remainingAll ss ds).length = ss.length := by
  induction ss generalizing ds with
  | nil => rfl
  | cons s ss ih => simp [remainingAll, ih]

theorem remainingAll_nonneg (ss ds : List Int64) : ∀ x ∈ remainingAll ss ds, 0 ≤ x.toInt := by
  intro x hx
  obtain ⟨p, hp⟩ := List.mem_iff_getElem?.mp hx
  rw [getElem?_remainingAll, Option.map_eq_some_iff] at hp
  obtain ⟨s, _, rfl⟩ := hp
  exact remaining_nonneg _ _

/-- A later segment that goes on from a series leaves no more than that series. -/
theorem zipWith_min_remainingAll {ss ds : List Int64} (hs : ∀ s ∈ ss, 0 ≤ s.toInt)
    (hd : ∀ p, 0 ≤ (ds.getD p 0).toInt) :
    List.zipWith min ss (remainingAll ss ds) = remainingAll ss ds := by
  refine List.ext_getElem? fun p => ?_
  rw [List.getElem?_zipWith, getElem?_remainingAll]
  cases hp : ss[p]? with
  | none => rfl
  | some s =>
    have := hs s (List.mem_of_getElem? hp)
    have := hd p
    refine congrArg some (Int64.toInt_inj.mp ?_)
    rw [toInt_min, toInt_remaining _ (hd p)]
    omega

/-! ## Comparing day and night -/

/-- The source of a comparison in which the night is nowhere above the day. -/
def laterSource (day night : List Int64) : HpSource :=
  if night = day then .agreed else .night

theorem reconcile_of_later {day night : List Int64} (hlen : day.length = night.length)
    (h : List.zipWith min day night = night) :
    reconcile (some day) (some night) = .known night (laterSource day night) := by
  simp only [reconcile, if_pos hlen, h, laterSource]
  split
  · rename_i hd; rw [hd]; rfl
  · exact if_pos trivial

@[simp] theorem Reconciled.get_known (hps : List Int64) (source : HpSource) (p : Nat) :
    (Reconciled.known hps source).get p = hps[p]? := by
  rw [get, known, List.getElem?_map]
  cases hps[p]? <;> rfl

/-! ## Consistent battles -/

/-- The hit points that a segment leaves a side. -/
def Segment.left (s : Segment) (side : Side) : List Int64 :=
  Ledger.after ⟨(s.side side).nowHps, s.damageTaken side⟩

@[simp] theorem Segment.getElem?_left (s : Segment) (side : Side) (p : Nat) :
    (s.left side)[p]?
      = (s.side side).nowHps[p]?.map fun hp => remaining hp ((s.damageTaken side).getD p 0) :=
  getElem?_remainingAll _ _ p

@[simp] theorem Segment.length_left (s : Segment) (side : Side) :
    (s.left side).length = (s.side side).nowHps.length :=
  length_remainingAll _ _

/-- The feed of a side is consistent: each segment gives hit points for it, and those of the
night are what the day left. -/
structure Consistent (b : Battle) (side : Side) : Prop where
  given : ∀ s ∈ b.segments.map (·.2), (s.side side).nowHps ≠ []
  follows : ∀ day ∈ b.day, ∀ night ∈ b.night, (night.side side).nowHps = day.left side

/-- The first segment of a battle. -/
def firstSegment? (b : Battle) : Option Segment := b.day.or b.night

/-- The hit points now are those at the start less the damage, and never below zero. -/
def CombatantRow.Exact (row : CombatantRow) : Prop :=
  ∃ start now, row.startHp = some start ∧ row.nowHp = some now ∧
    now.toInt = max (start.toInt - row.damage.toInt) 0

theorem segments_eq (b : Battle) : b.segments.map (·.2) = b.day.toList ++ b.night.toList := by
  unfold segments
  cases b.day <;> cases b.night <;> rfl

theorem Segment.ledger?_of_given {s : Segment} {side : Side} (h : (s.side side).nowHps ≠ []) :
    s.ledger? side = some ⟨(s.side side).nowHps, s.damageTaken side⟩ := by
  rw [ledger?, SideHp.start?, if_neg (by simpa using h)]
  rfl

theorem Segment.Decoded.left_eq {s : Segment} (hs : s.Decoded) {side : Side} {p : Nat}
    {start : Int64} (hp : (s.side side).nowHps[p]? = some start) :
    ∃ now, (s.left side)[p]? = some now ∧
      now.toInt = max (start.toInt - capped (lossOver side p s.phases)) 0 := by
  refine ⟨remaining start ((s.damageTaken side).getD p 0), by simp [hp], ?_⟩
  rw [toInt_remaining _ (hs.damageTaken_nonneg side p), hs.toInt_damageTaken]

/-- Two clamped reckonings in a row come to one: what the first leaves is not negative, and
damage that is held at the greatest integer leaves nothing of any start. -/
theorem telescope {start first second : Int} (hstart : start ≤ Int64.maxValue.toInt)
    (h1 : 0 ≤ first) (h2 : 0 ≤ second) :
    max (max (start - capped first) 0 - capped second) 0
      = max (start - capped (first + second)) 0 := by
  unfold capped
  rw [Int64.toInt_maxValue] at hstart ⊢
  omega

theorem left_eq_of_one {s : Segment} (hs : s.Decoded) {side : Side} {p : Nat} {start : Int64}
    (hp : (s.side side).nowHps[p]? = some start) :
    ∃ now, (s.left side)[p]? = some now ∧
      now.toInt = max (start.toInt - (damageAcross [s] side p).toInt) 0 := by
  obtain ⟨now, hnow, heq⟩ := hs.left_eq hp
  have across := toInt_damageAcross (List.forall_mem_singleton.mpr hs) side p
  rw [List.flatMap_singleton] at across
  exact ⟨now, hnow, across ▸ heq⟩

theorem left_eq_of_two {day night : Segment} (hday : day.Decoded) (hnight : night.Decoded)
    {side : Side} (follows : (night.side side).nowHps = day.left side) {p : Nat} {start : Int64}
    (hp : (day.side side).nowHps[p]? = some start) :
    ∃ now, (night.left side)[p]? = some now ∧
      now.toInt = max (start.toInt - (damageAcross [day, night] side p).toInt) 0 := by
  obtain ⟨mid, hmid, hmideq⟩ := hday.left_eq hp
  obtain ⟨now, hnow, hnoweq⟩ := hnight.left_eq (follows ▸ hmid)
  have across := toInt_damageAcross
    (List.forall_mem_cons.mpr ⟨hday, List.forall_mem_singleton.mpr hnight⟩) side p
  rw [List.flatMap_cons, List.flatMap_singleton, lossOver_append] at across
  refine ⟨now, hnow, ?_⟩
  rw [hnoweq, hmideq, across]
  exact telescope start.toInt_le (lossOver_nonneg hday side p) (lossOver_nonneg hnight side p)

theorem reconcile_left {day night : Segment} (hnight : night.Decoded) {side : Side}
    (follows : (night.side side).nowHps = day.left side) :
    reconcile (some (day.left side)) (some (night.left side))
      = .known (night.left side) (laterSource (day.left side) (night.left side)) := by
  refine reconcile_of_later (by simp [follows]) ?_
  rw [Segment.left.eq_1 night, Ledger.after, follows]
  exact zipWith_min_remainingAll (remainingAll_nonneg _ _) (hnight.damageTaken_nonneg side)

/-- A reckoning that gives, from the first segment on, the start less all damage, with the
source that the segments allow. -/
structure Reckoned (b : Battle) (side : Side) (first : Segment) (hp : Reconciled) : Prop where
  left : ∀ p start, (first.side side).nowHps[p]? = some start → ∃ now, hp.get p = some now ∧
    now.toInt = max (start.toInt - (damageAcross (b.segments.map (·.2)) side p).toInt) 0
  day : b.night = none → hp.source = .day
  night : b.day = none → hp.source = .night
  both : b.day ≠ none → b.night ≠ none → hp.source = .night ∨ hp.source = .agreed

theorem Reckoned.not_conflict {b : Battle} {side : Side} {first : Segment} {hp : Reconciled}
    (h : Reckoned b side first hp) : hp.source ≠ .conflict := by
  intro conflict
  by_cases hnight : b.night = none
  · have := h.day hnight; rw [conflict] at this; cases this
  · by_cases hday : b.day = none
    · have := h.night hday; rw [conflict] at this; cases this
    · rcases h.both hday hnight with source | source <;> rw [conflict] at source <;> cases source

/-- The hit points of a side after a battle, as its summary shows them. -/
def hitPoints (b : Battle) (side : Side) : Reconciled :=
  reconcileLedgers (b.day.bind (·.ledger? side)) (b.night.bind (·.ledger? side))

theorem alone_iff {b : Battle} {s : Segment} :
    b.segments.map (·.2) = [s]
      ↔ b.day = none ∧ b.night = some s ∨ b.day = some s ∧ b.night = none := by
  rw [segments_eq, List.append_eq_singleton_iff, Option.toList_eq_nil_iff,
    Option.toList_eq_nil_iff, Option.toList_eq_singleton_iff, Option.toList_eq_singleton_iff]

/-- A battle with a single segment is reckoned by what that segment leaves. -/
theorem reckoned_of_alone {b : Battle} {side : Side} {s : Segment}
    (alone : b.segments.map (·.2) = [s]) (hs : s.Decoded) (given : (s.side side).nowHps ≠ []) :
    Reckoned b side s (b.hitPoints side) := by
  have left (source : HpSource) (p : Nat) (start : Int64)
      (hp : (s.side side).nowHps[p]? = some start) :
      ∃ now, (Reconciled.known (s.left side) source).get p = some now ∧ now.toInt
        = max (start.toInt - (damageAcross (b.segments.map (·.2)) side p).toInt) 0 := by
    rw [alone, Reconciled.get_known]
    exact left_eq_of_one hs hp
  have ledger := Segment.ledger?_of_given given
  rcases alone_iff.mp alone with ⟨hday, hnight⟩ | ⟨hday, hnight⟩
  · rw [hitPoints, hday, hnight, Option.bind_none, Option.bind_some, ledger]
    exact ⟨left .night, by simp [hnight], fun _ => rfl, by simp [hday]⟩
  · rw [hitPoints, hday, hnight, Option.bind_some, Option.bind_none, ledger]
    exact ⟨left .day, fun _ => rfl, by simp [hday], by simp [hnight]⟩

theorem laterSource_cases (day night : List Int64) :
    laterSource day night = .night ∨ laterSource day night = .agreed := by
  unfold laterSource
  split
  · exact .inr rfl
  · exact .inl rfl

theorem hitPoints_of_both {b : Battle} {side : Side} {day night : Segment}
    (hday : b.day = some day) (hnight : b.night = some night) (hdn : night.Decoded)
    (hgd : (day.side side).nowHps ≠ []) (hgn : (night.side side).nowHps ≠ [])
    (follows : (night.side side).nowHps = day.left side) :
    b.hitPoints side
      = .known (night.left side) (laterSource (day.left side) (night.left side)) := by
  rw [hitPoints, hday, hnight, Option.bind_some, Option.bind_some, Segment.ledger?_of_given hgd,
    Segment.ledger?_of_given hgn]
  show reconcile (some (day.left side)) (some (night.left side)) = _
  exact reconcile_left hdn follows

theorem reckoned_of_both {b : Battle} {side : Side} {day night : Segment}
    (hday : b.day = some day) (hnight : b.night = some night) (hdd : day.Decoded)
    (hdn : night.Decoded) (hgd : (day.side side).nowHps ≠ []) (hgn : (night.side side).nowHps ≠ [])
    (follows : (night.side side).nowHps = day.left side) :
    Reckoned b side day (b.hitPoints side) := by
  have two : b.segments.map (·.2) = [day, night] := by rw [segments_eq, hday, hnight]; rfl
  rw [hitPoints_of_both hday hnight hdn hgd hgn follows]
  refine ⟨fun p start hp => ?_, by simp [hnight], by simp [hday],
    fun _ _ => laterSource_cases (day.left side) (night.left side)⟩
  rw [two]
  exact (Reconciled.get_known ..) ▸ left_eq_of_two hdd hdn follows hp

theorem Consistent.reckoned {b : Battle} {side : Side} (hc : b.Consistent side)
    (hd : b.Decoded) {first : Segment} (hfirst : b.firstSegment? = some first) :
    Reckoned b side first (b.hitPoints side) := by
  have given := hc.given
  have follows := hc.follows
  rw [segments_eq] at given
  unfold firstSegment? at hfirst
  -- which of the two segments there are decides what is compared
  cases hday : b.day with
  | none =>
    rw [hday, Option.none_or] at hfirst
    rw [hday, hfirst] at given
    exact reckoned_of_alone (alone_iff.mpr (.inl ⟨hday, hfirst⟩)) (hd.2 first hfirst)
      (given first (by simp))
  | some day =>
    rw [hday, Option.some_or] at hfirst
    obtain rfl : day = first := Option.some.inj hfirst
    rw [hday] at given
    have given_day : (day.side side).nowHps ≠ [] := given day (by simp)
    cases hnight : b.night with
    | none =>
      exact reckoned_of_alone (alone_iff.mpr (.inr ⟨hday, hnight⟩)) (hd.1 day hday) given_day
    | some night =>
      rw [hnight] at given
      exact reckoned_of_both hday hnight (hd.1 day hday) (hd.2 night hnight) given_day
        (given night (by simp)) (follows day hday night hnight)

theorem segments_of_first {b : Battle} {first : Segment} (h : b.firstSegment? = some first) :
    ∃ rest, b.segments.map (·.2) = first :: rest := by
  rw [segments_eq]
  unfold firstSegment? at h
  cases hday : b.day with
  | none =>
    rw [hday, Option.none_or] at h
    exact ⟨[], by rw [h]; rfl⟩
  | some day =>
    rw [hday, Option.some_or] at h
    exact ⟨b.night.toList, by rw [h]; rfl⟩

/-- On a consistent feed the hit points of a summary are exact: the rows stand for the
positions in order and cover all positions of the first segment, each of which shows the
start less the damage, and day and night never conflict. -/
theorem hitPoints_exact_of_consistent (s : Store) {text : String} {b : Battle}
    (h : ofText text = .ok b) {side : Side} (hc : b.Consistent side) {first : Segment}
    (hfirst : b.firstSegment? = some first) :
    let r := (summarize s b).side side
    r.rows.map (·.position) = List.range r.rows.length ∧
      (first.side side).nowHps.length ≤ r.rows.length ∧
      (∀ row ∈ r.rows, row.position < (first.side side).nowHps.length → row.Exact) ∧
      (b.night = none → r.hpSource = .day) ∧ (b.day = none → r.hpSource = .night) ∧
      (b.day ≠ none → b.night ≠ none → r.hpSource = .night ∨ r.hpSource = .agreed) ∧
      r.hpSource ≠ .conflict := by
  intro r
  obtain ⟨roster, identity, hside⟩ := summarize_side s b side
  have hr : r = summarizeSide b side roster identity := hside
  have reckoned := hc.reckoned (decoded_of_ofText h) hfirst
  obtain ⟨rest, hsegments⟩ := segments_of_first hfirst
  have length_ : r.rows.length = sideReach (b.segments.map (·.2)) side roster := by
    rw [hr, ← List.length_map (·.position), positions_summarizeSide, List.length_range]
  rw [length_]
  refine ⟨hr ▸ positions_summarizeSide .., nowHps_le_sideReach (by simp [hsegments]) side roster,
    fun row hrow hlt => ?_, hr ▸ reckoned.day, hr ▸ reckoned.night, hr ▸ reckoned.both,
    hr ▸ reckoned.not_conflict⟩
  · rw [hr, rows_summarizeSide] at hrow
    obtain ⟨p, _, rfl⟩ := List.mem_map.mp hrow
    obtain ⟨start, hp⟩ : ∃ start, (first.side side).nowHps[p]? = some start :=
      ⟨_, List.getElem?_eq_getElem hlt⟩
    obtain ⟨now, hnow, heq⟩ := reckoned.left p start hp
    refine ⟨start, now, ?_, hnow, heq⟩
    change (b.segments.map (·.2)).findSome? (fun s => (s.side side).nowHps[p]?) = _
    rw [hsegments, List.findSome?_cons, hp]

theorem skirmish_consistent : skirmish.Consistent .friendly where
  given := by decide +kernel
  follows := by rintro _ ⟨⟩ _ ⟨⟩; decide +kernel

/-- The skirmish takes 42 from 40 hit points, in two steps. -/
theorem skirmish_exact :
    skirmishRow.Exact ∧ ((summarize {} skirmish).side .friendly).hpSource ≠ .conflict := by
  obtain ⟨_, _, exact_, _, _, _, source⟩ :=
    hitPoints_exact_of_consistent {} ofText_skirmish skirmish_consistent rfl
  exact ⟨exact_ skirmishRow skirmishRow_mem (by decide), source⟩

end Flotilla.Battle
