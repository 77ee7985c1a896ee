import Flotilla.Proofs.Battle.Bounds

/-! # A further phase only wears down

A battle that gains a phase keeps its positions, their starts and the ships that escaped. The damage
at each position grows by what the phase does there, so every segment leaves no more hit points than
before. Day and night may then be compared with another outcome: the source may change, and known
hit points may become unknown or the other way round. Where they are known both times they do not
rise, because they are below what each of the segments leaves. -/
namespace Flotilla.Battle

/-! ## One more phase -/

/-- A segment and the same one with another phase somewhere among its phases. -/
def Segment.Gains (phase : Phase) (s t : Segment) : Prop :=
  ∃ before after, s.phases = before ++ after ∧ t = { s with phases := before ++ phase :: after }

/-- A battle and the same one with another phase in a segment that it has. -/
inductive Gains (phase : Phase) : Battle → Battle → Prop
  | day {b : Battle} {s t : Segment} (present : b.day = some s) (more : s.Gains phase t) :
      Gains phase b { b with day := some t }
  | night {b : Battle} {s t : Segment} (present : b.night = some s) (more : s.Gains phase t) :
      Gains phase b { b with night := some t }

variable {phase : Phase}

namespace Segment.Gains

variable {s t : Segment}

theorem side_eq (h : s.Gains phase t) (side : Side) : t.side side = s.side side := by
  obtain ⟨before, after, _, rfl⟩ := h
  cases side <;> rfl

theorem perm (h : s.Gains phase t) : t.phases.Perm (phase :: s.phases) := by
  obtain ⟨before, after, split, rfl⟩ := h
  rw [split]
  exact List.perm_middle

theorem decoded (h : s.Gains phase t) (hs : s.Decoded) (hp : phase.Decoded) : t.Decoded := by
  intro p hmem
  rcases List.mem_cons.mp (h.perm.mem_iff.mp hmem) with rfl | hmem
  · exact hp
  · exact hs p hmem

end Segment.Gains

/-- One segment gains the phase, and the others are the same before and after. -/
theorem Gains.segments {b c : Battle} (h : Gains phase b c) :
    ∃ front rest s t, b.segments.map (·.2) = front ++ s :: rest ∧
      c.segments.map (·.2) = front ++ t :: rest ∧ s.Gains phase t := by
  rw [segments_eq, segments_eq]
  cases h with
  | @day s t present more => exact ⟨[], b.night.toList, s, t, by rw [present]; rfl, rfl, more⟩
  | @night s t present more => exact ⟨b.day.toList, [], s, t, by rw [present]; rfl, rfl, more⟩

theorem Gains.elsewhere {b c : Battle} (h : Gains phase b c) :
    c = { b with day := c.day, night := c.night } := by
  cases h <;> rfl

/-! ## Segments worn down -/

/-- A segment gives the same hit points for a side as another one, and takes no less damage. -/
structure Segment.Worse (side : Side) (s t : Segment) : Prop where
  side_eq : t.side side = s.side side
  damage_le : ∀ p, (s.damageTaken side).getD p 0 ≤ (t.damageTaken side).getD p 0

theorem Segment.Worse.refl (side : Side) (s : Segment) : Segment.Worse side s s :=
  ⟨rfl, fun _ => Int64.le_refl _⟩

theorem Segment.Gains.worse {s t : Segment} (h : s.Gains phase t) (hs : s.Decoded)
    (hp : phase.Decoded) (side : Side) : Segment.Worse side s t := by
  refine ⟨h.side_eq side, fun p => ?_⟩
  have more : lossOver side p t.phases
      = (phase.lossAt side p).toInt + lossOver side p s.phases := by
    simp [lossOver_perm h.perm]
  have loss := hp.lossAt_nonneg side p
  rw [Int64.le_iff_toInt_le, hs.toInt_damageTaken, (h.decoded hs hp).toInt_damageTaken, more]
  exact capped_mono (by omega)

theorem remaining_le {start less more : Int64} (hless : 0 ≤ less.toInt) (hle : less ≤ more) :
    remaining start more ≤ remaining start less := by
  rw [Int64.le_iff_toInt_le] at hle
  rw [Int64.le_iff_toInt_le, toInt_remaining start hless,
    toInt_remaining start (Int.le_trans hless hle)]
  omega

theorem below_remainingAll (ss : List Int64) {ds es : List Int64}
    (hd : ∀ p, 0 ≤ (ds.getD p 0).toInt) (hle : ∀ p, ds.getD p 0 ≤ es.getD p 0) :
    Below (remainingAll ss es) (remainingAll ss ds) := by
  induction ss generalizing ds es with
  | nil => exact .nil
  | cons s ss ih =>
    have head (xs : List Int64) : xs.headD 0 = xs.getD 0 0 := by cases xs <;> rfl
    have tail (xs : List Int64) (p : Nat) : xs.tail.getD p 0 = xs.getD (p + 1) 0 := by
      cases xs <;> rfl
    refine .cons ?_ (ih (fun p => ?_) fun p => ?_)
    · rw [head, head]
      exact remaining_le (hd 0) (hle 0)
    · rw [tail]
      exact hd (p + 1)
    · rw [tail, tail]
      exact hle (p + 1)

theorem Segment.Worse.below {side : Side} {s t : Segment} (h : Segment.Worse side s t)
    (hs : s.Decoded) : Below (t.left side) (s.left side) := by
  rw [Segment.left, Segment.left, h.side_eq]
  exact below_remainingAll _ (hs.damageTaken_nonneg side) h.damage_le

/-! ## Battles worn down -/

namespace Gains

variable {b c : Battle} {side : Side}

theorem sides_eq (h : Gains phase b c) (side : Side) :
    (c.segments.map (·.2)).map (·.side side) = (b.segments.map (·.2)).map (·.side side) := by
  obtain ⟨front, rest, s, t, hb, hc, more⟩ := h.segments
  rw [hb, hc, List.map_append, List.map_append, List.map_cons, List.map_cons, more.side_eq]

theorem worse (h : Gains phase b c) (hb : b.Decoded) (hp : phase.Decoded) (side : Side) :
    ∀ s ∈ b.segments.map (·.2), ∃ t ∈ c.segments.map (·.2), Segment.Worse side s t := by
  obtain ⟨front, rest, s, t, before, after, more⟩ := h.segments
  have decoded : s.Decoded := hb.segments s (before ▸ List.mem_append_cons_self)
  rw [before, after]
  intro u hu
  rcases List.mem_append.mp hu with hfront | hrest
  · exact ⟨u, List.mem_append_left _ hfront, .refl side u⟩
  · rcases List.mem_cons.mp hrest with rfl | hrest
    · exact ⟨t, List.mem_append_cons_self, more.worse decoded hp side⟩
    · exact ⟨u, List.mem_append_right _ (List.mem_cons_of_mem _ hrest), .refl side u⟩

/-- Known hit points do not rise. They are no more than what each segment leaves now, which is no
more than what it left before. -/
theorem hitPoints_le (h : Gains phase b c) (hb : b.Decoded) (hp : phase.Decoded) {p : Nat}
    {before after : Int64} (known : (b.hitPoints side).get p = some before)
    (known' : (c.hitPoints side).get p = some after) : after ≤ before := by
  rcases hitPoints_cases b side with unknown | ⟨s, hs, eq_s, _⟩
  · rw [unknown] at known
    cases known
  rcases hitPoints_cases c side with unknown | ⟨t, _, eq_t, least⟩
  · rw [unknown] at known'
    cases known'
  rw [eq_s] at known
  rw [eq_t] at known'
  obtain ⟨hmem, given⟩ := mem_givenFor.mp hs
  obtain ⟨s', hmem', worse⟩ := h.worse hb hp side s hmem
  have given' : s' ∈ c.givenFor side := mem_givenFor.mpr ⟨hmem', worse.side_eq ▸ given⟩
  have below : Below (t.left side) (s.left side) :=
    (least s' given').trans (worse.below (hb.segments s hmem))
  obtain ⟨x, hx, hle⟩ := below.getElem? known'
  obtain rfl : before = x := Option.some.inj (known.symm.trans hx)
  exact hle

theorem perm (h : Gains phase b c) : c.phases.Perm (phase :: b.phases) := by
  obtain ⟨front, rest, s, t, before, after, more⟩ := h.segments
  rw [phases, phases, before, after, List.flatMap_append, List.flatMap_append, List.flatMap_cons,
    List.flatMap_cons]
  exact ((more.perm.append_right _).append_left _).trans List.perm_middle

theorem decoded (h : Gains phase b c) (hb : b.Decoded) (hp : phase.Decoded) :
    ∀ s ∈ c.segments.map (·.2), s.Decoded := by
  obtain ⟨front, rest, s, t, before, after, more⟩ := h.segments
  have all := hb.segments
  rw [before, List.forall_mem_append, List.forall_mem_cons] at all
  rw [after, List.forall_mem_append, List.forall_mem_cons]
  exact ⟨all.1, more.decoded all.2.1 hp, all.2.2⟩

/-- The damage grows by what the phase does. -/
theorem damage_eq (h : Gains phase b c) (hb : b.Decoded) (hp : phase.Decoded) (side : Side)
    (p : Nat) : damageAcross (c.segments.map (·.2)) side p
      = addCapped (damageAcross (b.segments.map (·.2)) side p) (phase.lossAt side p) := by
  have loss := hp.lossAt_nonneg side p
  have after : (damageAcross (c.segments.map (·.2)) side p).toInt
      = capped (lossOver side p c.phases) := toInt_damageAcross (h.decoded hb hp) side p
  rw [← Int64.toInt_inj, toInt_addCapped (hb.damageAcross_nonneg side p) loss,
    hb.toInt_damageAcross, capped_capped_add _ loss, after, lossOver_perm h.perm, lossOver_cons,
    Int.add_comm]

end Gains

/-! ## Rows worn down -/

/-- A row and what becomes of it under a further loss: the damage grows by the loss, and known hit
points do not rise. All else stays, the position, the start and the escape included. -/
structure CombatantRow.WornBy (loss : Int64) (before after : CombatantRow) : Prop where
  elsewhere : after = { before with nowHp := after.nowHp, damage := after.damage }
  damage_eq : after.damage = addCapped before.damage loss
  damage_le : before.damage ≤ after.damage
  nowHp_le : ∀ hp ∈ before.nowHp, ∀ hp' ∈ after.nowHp, hp' ≤ hp

theorem le_addCapped {x y : Int64} (hx : 0 ≤ x.toInt) (hy : 0 ≤ y.toInt) : x ≤ addCapped x y := by
  rw [Int64.le_iff_toInt_le, toInt_addCapped hx hy, ← capped_toInt x]
  exact capped_mono (by rw [capped_toInt]; omega)

/-- An accepted battle that gains a phase, such as occurs in accepted battles, heals nobody: on both
sides the rows stand for the same positions, and each of them is worn by what the phase does at its
position. -/
theorem gain_never_heals (s : Store) {text other : String} {b c source : Battle}
    (h : ofText text = .ok b) (hsource : ofText other = .ok source) (occurs : phase ∈ source.phases)
    (more : Gains phase b c) (side : Side) :
    List.Forall₂ (fun row row' => row.WornBy (phase.lossAt side row.position) row')
      ((summarize s b).side side).rows ((summarize s c).side side).rows := by
  have decoded := decoded_of_ofText h
  have decodedPhase := (decoded_of_ofText hsource).phases phase occurs
  have same := more.sides_eq side
  obtain ⟨roster, identity, before, after⟩ := summarize_side_with s b c.day c.night side
  rw [← more.elsewhere] at after
  rw [before, after, rows_summarizeSide, rows_summarizeSide, sideReach_congr same,
    List.forall₂_map_left_iff, List.forall₂_map_right_iff, List.forall₂_same]
  intro p _
  have damage := more.damage_eq decoded decodedPhase side p
  refine ⟨combatantRow_congr same .., damage, ?_, fun hp known hp' known' => ?_⟩
  · show damageAcross _ side p ≤ damageAcross _ side p
    rw [damage]
    exact le_addCapped (decoded.damageAcross_nonneg side p) (decodedPhase.lossAt_nonneg side p)
  · exact more.hitPoints_le decoded decodedPhase known known'

/-- A feed with a salvo by day and an attack by night, which leave 25 of 40. -/
def patrolText : String :=
  "[\"patrol\",0,0,0,1,0,[],[[[40]],[],[[\"torpedo\",\"opening\",null,[[0],[10]]]]]," ++
    "[[[30]],[],[[\"shelling\",\"night\",[[\"enemy\",0,0,[0],[5]]]]]]]"

/-- A salvo of the enemy that takes 10 from the first ship. -/
def enemySalvo : Phase := .torpedo { enemy := some ⟨[⟨0, [0]⟩], [{ damage := 10 }]⟩ }

/-- The battle that the feed gives, with a list of phases by day. -/
def patrolOf (phases : List Phase) : Battle where
  id := "patrol"
  day := some { friendly := { nowHps := [40] }, phases }
  night := some
    { friendly := { nowHps := [30] }
      phases := [.shelling
        { stage := .night, attacks := [⟨.enemy, 0, 0, [⟨0, 5, none, false, .normal⟩]⟩] }] }

theorem ofText_patrol : ofText patrolText = .ok (patrolOf [enemySalvo]) := by decide +kernel

theorem rows_patrol :
    ((summarize {} (patrolOf [enemySalvo])).side .friendly).rows
      = [{ skirmishRow with nowHp := some 25, damage := 15 }] := by
  decide +kernel

theorem rows_patrol_gained :
    ((summarize {} (patrolOf [enemySalvo, enemySalvo])).side .friendly).rows
      = [{ skirmishRow with nowHp := some 20, damage := 25 }] := by
  decide +kernel

/-- The salvo of the skirmish by day takes 10, of which 5 show: the day is now below the night. -/
theorem gain_never_heals_patrol :
    ∃ row ∈ ((summarize {} (patrolOf [enemySalvo])).side .friendly).rows,
      ∃ row' ∈ ((summarize {} (patrolOf [enemySalvo, enemySalvo])).side .friendly).rows,
        row.nowHp = some 25 ∧ row'.nowHp = some 20 ∧ row.WornBy 10 row' := by
  have worn := gain_never_heals {} ofText_patrol ofText_skirmish
    (show enemySalvo ∈ skirmish.phases by decide) (.day rfl ⟨[], [enemySalvo], rfl, rfl⟩) .friendly
  change List.Forall₂ _ _ ((summarize {} (patrolOf [enemySalvo, enemySalvo])).side .friendly).rows
    at worn
  rw [rows_patrol, rows_patrol_gained] at worn ⊢
  cases worn with
  | cons first _ =>
    exact ⟨_, List.mem_cons_self, _, List.mem_cons_self, rfl, rfl, first⟩

end Flotilla.Battle
