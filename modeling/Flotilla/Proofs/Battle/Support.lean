import Flotilla.Proofs.Battle.Strikes

/-! # Hits on one position merged

Merging adds up the damage of two hits and keeps the greater of their flags, and the merged hit
is read from these. It is the stronger of the two hits, but for two cases: a flag above that of
critical hits overrules a critical hit, which is shown as a normal one; and a hit without damage
lends its critical flag to the other one, which is shown as critical. An air strike does neither
to a barrage, since its flags are made from its hits. A barrage can do both to an air strike. -/
namespace Flotilla.Battle

open TargetGroups

/-! ## The stronger hit -/

/-- The rank of a hit: a miss is weakest. -/
def Hit.rank : Hit → Nat
  | .miss => 0
  | .normal => 1
  | .critical => 2

/-- The stronger of two hits. -/
def Hit.stronger (a b : Hit) : Hit := if a.rank ≤ b.rank then b else a

/-! ## Two hits on one position -/

namespace Received

/-- The hit that damage and flag make. -/
def hit (r : Received) : Hit := classify (some r.damage) r.critical

/-- Two hits on one position as one. -/
def plus (a b : Received) : Received :=
  ⟨addCapped a.damage b.damage, strongest a.critical b.critical, a.shielded || b.shielded⟩

/-- A flag above that of critical hits. -/
def outranks (r : Received) : Bool := r.critical.any (criticalFlag < ·)

/-- A hit whose flag hides that the other hit is critical. -/
def overrules (a b : Received) : Bool := a.outranks && b.hit = .critical

/-- A hit without damage that has the critical flag, where the other hit is a normal one. -/
def lends (a b : Received) : Bool :=
  a.damage = 0 && a.critical = some criticalFlag && !b.outranks && b.hit = .normal

theorem hit_eq (r : Received) :
    r.hit = if r.damage = 0 then .miss else if r.critical = some criticalFlag then .critical
      else .normal := rfl

theorem outranks_of_critical {r : Received} (h : r.critical = some criticalFlag) :
    r.outranks = false := by
  simp [outranks, h]

end Received

theorem addCapped_eq_zero {a b : Int64} (ha : 0 ≤ a.toInt) (hb : 0 ≤ b.toInt) :
    addCapped a b = 0 ↔ a = 0 ∧ b = 0 := by
  rw [← toInt_eq_zero_iff, toInt_addCapped ha hb, capped_eq_zero_iff, ← toInt_eq_zero_iff (x := a),
    ← toInt_eq_zero_iff (x := b)]
  omega

theorem max_eq_criticalFlag (a b : Int64) :
    max a b = criticalFlag
      ↔ (a = criticalFlag ∨ b = criticalFlag) ∧ ¬ criticalFlag < a ∧ ¬ criticalFlag < b := by
  simp only [← Int64.toInt_inj, Int64.lt_iff_toInt_lt, toInt_max]
  omega

namespace Received

theorem strongest_eq_criticalFlag (a b : Received) :
    strongest a.critical b.critical = some criticalFlag
      ↔ (a.critical = some criticalFlag ∨ b.critical = some criticalFlag) ∧
        a.outranks = false ∧ b.outranks = false := by
  obtain ⟨_, x, _⟩ := a
  obtain ⟨_, y, _⟩ := b
  cases x with
  | none =>
    cases y with
    | none => simp [strongest, outranks]
    | some y =>
      simp only [strongest, outranks]
      by_cases h : y = criticalFlag <;> simp [h]
  | some x =>
    cases y with
    | none =>
      simp only [strongest, outranks]
      by_cases h : x = criticalFlag <;> simp [h]
    | some y => simpa [strongest, outranks] using max_eq_criticalFlag x y

theorem hit_eq_miss {r : Received} : r.hit = .miss ↔ r.damage = 0 := classify_eq_miss

theorem hit_plus_eq_miss {a b : Received} (ha : 0 ≤ a.damage.toInt) (hb : 0 ≤ b.damage.toInt) :
    (a.plus b).hit = .miss ↔ a.hit = .miss ∧ b.hit = .miss := by
  simp only [hit_eq_miss]
  exact addCapped_eq_zero ha hb

theorem hit_eq_critical {r : Received} :
    r.hit = .critical ↔ r.hit ≠ .miss ∧ r.critical = some criticalFlag := by
  rw [hit_eq]
  split
  · simp
  · split <;> simp_all

theorem hit_plus_eq_critical {a b : Received} (ha : 0 ≤ a.damage.toInt)
    (hb : 0 ≤ b.damage.toInt) :
    (a.plus b).hit = .critical
      ↔ ¬ (a.hit = .miss ∧ b.hit = .miss) ∧
        (a.critical = some criticalFlag ∨ b.critical = some criticalFlag) ∧
        a.outranks = false ∧ b.outranks = false := by
  rw [hit_eq_critical, ne_eq, hit_plus_eq_miss ha hb]
  exact and_congr_right fun _ => strongest_eq_criticalFlag a b

/-- The hit that two hits make together. -/
theorem hit_plus {a b : Received} (ha : 0 ≤ a.damage.toInt) (hb : 0 ≤ b.damage.toInt) :
    (a.plus b).hit
      = if a.overrules b || b.overrules a then .normal
        else if a.lends b || b.lends a then .critical
        else a.hit.stronger b.hit := by
  -- both hits together are a miss or critical just when these say so, and normal otherwise
  have miss := hit_plus_eq_miss ha hb
  have critical := hit_plus_eq_critical ha hb
  -- a hit that is critical has the flag, and one that has the flag does not outrank
  have flagA := @hit_eq_critical a
  have flagB := @hit_eq_critical b
  have outA := @outranks_of_critical a
  have outB := @outranks_of_critical b
  simp only [overrules, lends, ← hit_eq_miss]
  cases hitA : a.hit <;> cases hitB : b.hit <;> cases hit : (a.plus b).hit <;>
    grind [Hit.stronger, Hit.rank]

/-- Overruling and lending are what keeps two hits from being shown as the stronger one. -/
theorem hit_plus_eq_stronger {a b : Received} (ha : 0 ≤ a.damage.toInt)
    (hb : 0 ≤ b.damage.toInt) :
    (a.plus b).hit = a.hit.stronger b.hit
      ↔ ¬ (a.overrules b || b.overrules a) ∧ ¬ (a.lends b || b.lends a) := by
  rw [hit_plus ha hb]
  simp only [overrules, lends, ← hit_eq_miss]
  cases a.hit <;> cases b.hit <;> grind [Hit.stronger, Hit.rank]

theorem shown_eq_stronger (hit : Hit) (r : Received) :
    (if r.outranks && hit = .critical then .normal
      else if r.damage = 0 && r.critical = some criticalFlag && hit = .normal then .critical
      else hit.stronger r.hit) = hit.stronger r.hit
      ↔ ¬ (r.outranks && hit = .critical) ∧
        ¬ (r.damage = 0 && r.critical = some criticalFlag && hit = .normal) := by
  simp only [← hit_eq_miss]
  cases hit <;> cases r.hit <;> grind [Hit.stronger, Hit.rank]

end Received

/-! ## Rows that are merged -/

namespace TargetRow

/-- What a row says that its position received. -/
def received (row : TargetRow) : Received := ⟨row.damage, row.critical, row.shielded⟩

theorem Stands.hit_eq {row : TargetRow} {t : Nat} (h : row.Stands t) :
    row.hit = row.received.hit := h.hit

theorem hit_merge (row : TargetRow) (r : Received) :
    (row.merge r).hit = (row.received.plus r).hit := rfl

end TargetRow

namespace TargetGroups

/-- No row of the groups has negative damage. -/
def NonNeg (g : TargetGroups) : Prop := ∀ t row, g.get? t = some row → 0 ≤ row.damage.toInt

theorem NonNeg.put {g : TargetGroups} (h : g.NonNeg) {t : Nat} {row : TargetRow}
    (hrow : 0 ≤ row.damage.toInt) : (g.put t row).NonNeg := by
  intro p row' hget
  simp only [get?_put] at hget
  split at hget
  · obtain rfl := Option.some.inj hget
    exact hrow
  · exact h p row' hget

theorem NonNeg.take {g : TargetGroups} (h : g.NonNeg) {s : Step}
    (hs : 0 ≤ s.received.damage.toInt) : (g.take s).NonNeg := by
  cases s with
  | record t a r =>
    rw [TargetGroups.take, record_eq_put]
    cases known : g.get? t with
    | none => exact h.put hs
    | some row =>
      have kept : 0 ≤ (row.attackedBy a).damage.toInt := h t row known
      exact h.put kept
  | merge t r =>
    rw [TargetGroups.take, merge_eq_put]
    cases known : g.get? t with
    | none => exact h.put hs
    | some row =>
      change 0 ≤ r.damage.toInt at hs
      have added : 0 ≤ (row.merge r).damage.toInt := by
        show 0 ≤ (addCapped row.damage r.damage).toInt
        rw [toInt_addCapped (h t row known) hs]
        exact capped_nonneg (Int.add_nonneg (h t row known) hs)
      exact h.put added

theorem nonNeg_run {steps : List Step} (h : ∀ s ∈ steps, 0 ≤ s.received.damage.toInt) :
    (run steps).NonNeg := by
  have start : NonNeg {} := by
    intro t row hget
    simp at hget
  unfold run
  -- the steps are taken from any groups that have no negative row
  generalize ({} : TargetGroups) = g at start
  induction steps generalizing g with
  | nil => exact start
  | cons s steps ih =>
    obtain ⟨hs, hsteps⟩ := List.forall_mem_cons.mp h
    exact ih hsteps (g.take s) (start.take hs)

end TargetGroups

/-! ## Support phases -/

/-- What one hit of an air strike can say: its flag is no greater than that of critical hits,
and without damage it has none. -/
structure Received.OfStrike (r : Received) : Prop where
  nonneg : 0 ≤ r.damage.toInt
  outranks : r.outranks = false
  quiet : r.damage = 0 → r.critical = none

theorem AirStrike.Decoded.ofStrike {s : AirStrike} (h : s.Decoded) (t : Nat) :
    (s.receivedAt t).OfStrike := by
  rw [AirStrike.receivedAt, List.getD_eq_getElem?_getD, List.getElem?_map]
  cases he : s.targets[t]? with
  | none => exact ⟨Int.le_refl 0, rfl, fun _ => rfl⟩
  | some e =>
    have mem := List.mem_of_getElem? he
    obtain ⟨flag, hflag⟩ := h.classified e mem
    refine ⟨h.nonneg e mem, ?_, fun zero => ?_⟩
    · show e.received.outranks = false
      unfold Received.outranks StrikeEntry.received
      cases e.hit <;> rfl
    · have zero : e.damage = 0 := zero
      have miss : e.hit = .miss := by rw [hflag, zero]; rfl
      simp [StrikeEntry.received, miss]

namespace Received.OfStrike

variable {a b : Received}

/-- A hit of a strike never changes how a hit of a barrage is shown, so only the barrage can
overrule or lend. -/
theorem hit_plus (ha : a.OfStrike) (hb : 0 ≤ b.damage.toInt) :
    (a.plus b).hit
      = if b.overrules a then .normal else if b.lends a then .critical
        else a.hit.stronger b.hit := by
  have overrules : a.overrules b = false := by simp [Received.overrules, ha.outranks]
  have lends : a.lends b = false := by
    by_cases zero : a.damage = 0
    · simp [Received.lends, ha.quiet zero]
    · simp [Received.lends, zero]
  rw [Received.hit_plus ha.nonneg hb, overrules, lends, Bool.false_or, Bool.false_or]

end Received.OfStrike

theorem Received.of_not_counts {r : Received} (hr : 0 ≤ r.damage.toInt) (h : r.counts = false) :
    r.hit = .miss ∧ r.outranks = false ∧ r.critical ≠ some criticalFlag := by
  have zero := r.damage_of_not_counts hr h
  obtain ⟨-, noFlag⟩ := Bool.or_eq_false_iff.mp h
  refine ⟨classify_eq_miss.mpr zero, ?_, fun flag => ?_⟩
  · cases hc : r.critical with
    | none => simp [outranks, hc]
    | some f =>
      have notPos : ¬ 0 < f := by simpa [hc] using noFlag
      have positive : (0 : Int64) < criticalFlag := by decide
      have below : ¬ criticalFlag < f := fun above => notPos (Int64.lt_trans positive above)
      simp [outranks, hc, below]
  · rw [flag] at noFlag
    exact absurd noFlag (by decide)

/-- A row of a strike with one target of a barrage added shows the hit of both, whether the
target counts or not. -/
theorem hit_withBarrage {row : TargetRow} {t : Nat} (stands : row.Stands t)
    (strike : row.received.OfStrike) {r : Received} (hr : 0 ≤ r.damage.toInt) :
    ∃ merged, withBarrage (some row) t r = some merged ∧
      merged.hit
        = if r.overrules row.received then .normal else if r.lends row.received then .critical
          else row.hit.stronger r.hit := by
  cases counts : r.counts with
  | true =>
    refine ⟨row.merge r, by rw [withBarrage, counts]; rfl, ?_⟩
    rw [row.hit_merge, strike.hit_plus hr, stands.hit_eq]
  | false =>
    obtain ⟨miss, outranks, flag⟩ := Received.of_not_counts hr counts
    refine ⟨row, by rw [withBarrage, counts]; rfl, ?_⟩
    have overrules : r.overrules row.received = false := by simp [Received.overrules, outranks]
    have lends : r.lends row.received = false := by simp [Received.lends, flag]
    rw [overrules, lends, miss]
    cases row.hit <;> rfl

theorem AirStrike.Decoded.ofStrike_row {s : AirStrike} (h : s.Decoded) {t : Nat} {row : TargetRow}
    (hrow : (groupStrike s).get? t = some row) : row.received.OfStrike := by
  have tells := h.tells_groupStrike
  have told := tells.row t ((tells.held t).mpr (by rw [hrow]; rfl))
  obtain rfl := Option.some.inj (hrow.symm.trans told)
  exact h.ofStrike t

/-- What the barrage of a support phase does at a position. -/
def SupportPhase.barrageAt (p : SupportPhase) (target : Nat) : Received :=
  (p.barrage.bind (·.targets[target]?)).getD {}

theorem Phase.Decoded.hit_support {p : SupportPhase} (h : (Phase.support p).Decoded)
    {s : AirStrike} (hs : p.air = some s) {t : Nat} {alone : TargetRow}
    (hrow : (groupStrike s).get? t = some alone) :
    ∃ row, (groupSupport p).get? t = some row ∧
      row.hit
        = if (p.barrageAt t).overrules alone.received then .normal
          else if (p.barrageAt t).lends alone.received then .critical
          else alone.hit.stronger (p.barrageAt t).hit := by
  have decoded := h.1 s hs
  have stands := decoded.tells_groupStrike.stands t alone hrow
  -- without anything of a barrage the row stays, and the hit of nothing is a miss
  have still : alone.hit = if ({} : Received).overrules alone.received then .normal
      else if ({} : Received).lends alone.received then .critical
      else alone.hit.stronger ({} : Received).hit := by
    obtain ⟨miss, outranks, flag⟩ :=
      Received.of_not_counts (r := {}) (Int.le_refl 0) (by decide)
    simp only [Received.overrules, Received.lends, outranks, flag, miss]
    cases alone.hit <;> rfl
  unfold groupSupport SupportPhase.barrageAt
  rw [hs]
  cases hb : p.barrage with
  | none => exact ⟨alone, hrow, still⟩
  | some b =>
    simp only [Option.map_some, Option.getD_some, Option.bind_some, get?_addBarrage, hrow]
    cases hr : b.targets[t]? with
    | none => exact ⟨alone, rfl, still⟩
    | some r =>
      have nonneg := (h.2 b hb).nonneg r (List.mem_of_getElem? hr)
      exact hit_withBarrage stands (decoded.ofStrike_row hrow) nonneg

/-- A merged hit is the stronger of the two hits, unless the flag of one overrules the other,
which is critical, or lends it the critical flag. In a support phase of an accepted battle only
the barrage does so to a position of the air strike: its flag is above that of critical hits and
the strike was critical, or it has the critical flag without damage and the strike hit
normally. -/
theorem merged_hit (t : Nat) :
    (∀ (steps : List Step) (row : TargetRow) (r : Received),
      (∀ s ∈ steps, 0 ≤ s.received.damage.toInt) → (run steps).get? t = some row →
      0 ≤ r.damage.toInt →
      ∃ merged, ((run steps).merge t r).get? t = some merged ∧
        merged.hit
          = (if row.received.overrules r || r.overrules row.received then .normal
            else if row.received.lends r || r.lends row.received then .critical
            else row.hit.stronger r.hit) ∧
        (merged.hit = row.hit.stronger r.hit
          ↔ ¬ (row.received.overrules r || r.overrules row.received) ∧
            ¬ (row.received.lends r || r.lends row.received))) ∧
    ∀ (text : String) (b : Battle) (p : SupportPhase) (s : AirStrike) (alone : TargetRow),
      ofText text = .ok b → Phase.support p ∈ b.phases → p.air = some s →
      (groupStrike s).get? t = some alone →
      ∃ row, (groupSupport p).get? t = some row ∧
        let r := p.barrageAt t
        row.hit
          = (if r.outranks && alone.hit = .critical then .normal
            else if r.damage = 0 && r.critical = some criticalFlag && alone.hit = .normal then
              .critical
            else alone.hit.stronger r.hit) ∧
        (row.hit = alone.hit.stronger r.hit
          ↔ ¬ (r.outranks && alone.hit = .critical) ∧
            ¬ (r.damage = 0 && r.critical = some criticalFlag && alone.hit = .normal)) := by
  constructor
  · intro steps row r hsteps hrow hr
    have stands := (inStep_run steps).stands t row hrow
    have nonneg := nonNeg_run hsteps t row hrow
    refine ⟨row.merge r, ?_, ?_, ?_⟩
    · simp [hrow]
    · rw [row.hit_merge, Received.hit_plus nonneg hr, stands.hit_eq]
    · rw [row.hit_merge, stands.hit_eq]
      exact Received.hit_plus_eq_stronger nonneg hr
  · intro text b p s alone hb hp hs hrow
    have decoded := (decoded_of_ofText hb).phases _ hp
    have strike := decoded.1 s hs
    have stands := strike.tells_groupStrike.stands t alone hrow
    obtain ⟨row, hget, hhit⟩ := decoded.hit_support hs hrow
    have shown : row.hit
        = if (p.barrageAt t).outranks && alone.hit = .critical then .normal
          else if (p.barrageAt t).damage = 0 && (p.barrageAt t).critical = some criticalFlag &&
            alone.hit = .normal then .critical
          else alone.hit.stronger (p.barrageAt t).hit := by
      rw [hhit, stands.hit_eq]
      simp only [Received.overrules, Received.lends, (strike.ofStrike_row hrow).outranks,
        Bool.not_false, Bool.and_true]
    refine ⟨row, hget, shown, ?_⟩
    rw [shown]
    exact Received.shown_eq_stronger _ _

/-- A feed with a support phase whose barrage meets both hits of its air strike. -/
def clashText : String :=
  "\x7b\"id\":\"1\",\"day\":\x7b\"phases\":[\x7b\"kind\":\"support\"," ++
    "\"air\":\x7b\"total_damages\":[5,5],\"bak_flag\":[1,1],\"critical_flags\":[2,1]\x7d," ++
    "\"barrage\":\x7b\"damage\":[5,0],\"critical\":[3,2]\x7d\x7d]\x7d\x7d"

/-- The air strike of the feed: a critical hit and a normal one. -/
def clashStrike : AirStrike where
  touchPlane := none
  planeFrom := []
  squadrons := []
  targets := [⟨0, none, 5, true, false, false, .critical⟩, ⟨1, none, 5, true, false, false, .normal⟩]

/-- The support phase of the feed: the flag of one hit of the barrage is above that of critical
hits, and the other hit is critical without damage. -/
def clashSupport : SupportPhase where
  air := some clashStrike
  barrage := some ⟨[{ damage := 5, critical := some 3 }, { critical := some 2 }]⟩

/-- The battle that the feed gives. -/
def clash : Battle where
  id := "1"
  day := some { phases := [.support clashSupport] }

theorem ofText_clash : ofText clashText = .ok clash := by decide +kernel

theorem merged_hit_clash :
    (∃ merged, ((run [.record 0 none { damage := 5, critical := some 2 }]).merge 0
        { damage := 5, critical := some 3 }).get? 0 = some merged ∧ merged.hit = .normal) ∧
      (∃ row, (groupSupport clashSupport).get? 0 = some row ∧ row.hit = .normal) ∧
      ∃ row, (groupSupport clashSupport).get? 1 = some row ∧ row.hit = .critical := by
  have member : Phase.support clashSupport ∈ clash.phases := by decide +kernel
  refine ⟨?_, ?_, ?_⟩
  · obtain ⟨merged, hget, hhit, -⟩ :=
      (merged_hit 0).1 [.record 0 none { damage := 5, critical := some 2 }]
        ⟨0, 5, some 2, .critical, false, []⟩ { damage := 5, critical := some 3 } (by decide)
        (by decide) (by decide)
    exact ⟨merged, hget, hhit.trans (by decide)⟩
  · obtain ⟨row, hget, hhit, -⟩ := (merged_hit 0).2 clashText clash clashSupport clashStrike
      ⟨0, 5, some 2, .critical, false, []⟩ ofText_clash member rfl (by decide)
    exact ⟨row, hget, hhit.trans (by decide)⟩
  · obtain ⟨row, hget, hhit, -⟩ := (merged_hit 1).2 clashText clash clashSupport clashStrike
      ⟨1, 5, some 1, .normal, false, []⟩ ofText_clash member rfl (by decide)
    exact ⟨row, hget, hhit.trans (by decide)⟩

/-- A critical hit is shown as a normal one, and a normal hit that meets a miss as a critical
one. -/
theorem weakened_and_raised_of_clashText :
    ∃ b p s, ofText clashText = .ok b ∧ Phase.support p ∈ b.phases ∧ p.air = some s ∧
      (((groupStrike s).get? 0).map (·.hit) = some .critical ∧ (p.barrageAt 0).hit = .normal ∧
        ((groupSupport p).get? 0).map (·.hit) = some .normal) ∧
      ((groupStrike s).get? 1).map (·.hit) = some .normal ∧ (p.barrageAt 1).hit = .miss ∧
        ((groupSupport p).get? 1).map (·.hit) = some .critical := by
  refine ⟨clash, clashSupport, clashStrike, ofText_clash, ?_⟩
  decide +kernel

end Flotilla.Battle
