import Flotilla.Proofs.Battle.Targets

/-! # Strikes, salvos and barrages by target

The groups of an attack table give the damage of a strike at the positions that it
shows, that of a salvo at the positions that a launcher names, and all damage of a
barrage. So a position where a strike or a salvo hides nothing has all of its damage
in the groups. -/
namespace Flotilla.Battle

open Flotilla.Store (combinedSize)

/-! ## What is hidden -/

/-- A strike shows all of its damage at a position. -/
def AirStrike.Shows (s : AirStrike) (target : Nat) : Prop :=
  ∀ e ∈ s.targets, e.index = target → 0 < e.damage → e.shown

/-- A salvo shows its damage at a position: a launcher names the position. -/
def Salvo.Shows (s : Salvo) (target : Nat) : Prop :=
  ∀ r, s.received[target]? = some r → 0 < r.damage →
    ∃ l ∈ s.launchers, ∃ t ∈ l.targets, t.toInt = target

/-- A phase shows all of its damage to a side at a position; support attacks enemies only. -/
def Phase.Shows (side : Side) (target : Nat) : Phase → Prop
  | .air p => ∀ s ∈ p.strike side.opponent, s.Shows target
  | .torpedo p => ∀ s ∈ p.salvo side.opponent, s.Shows target
  | .shelling _ => True
  | .support p => side = .enemy → ∀ s ∈ p.air, s.Shows target

/-- Every phase of a battle shows all of its damage to a side at a position. -/
def NothingHidden (b : Battle) (side : Side) (target : Nat) : Prop :=
  ∀ p ∈ b.phases, p.Shows side target

theorem eq_zero_of_not_pos {x : Int64} (h : 0 ≤ x.toInt) (hx : ¬ 0 < x) : x = 0 := by
  rw [Int64.lt_iff_toInt_lt, Int64.toInt_zero] at hx
  exact Int64.toInt_inj.mp (by rw [Int64.toInt_zero]; omega)

/-! ## Strikes by target -/

/-- The positions that a strike shows as attacked. -/
def AirStrike.struck (s : AirStrike) : List Nat := s.shownTargets.map (·.index)

theorem AirStrike.mem_struck {s : AirStrike} {p : Nat} :
    p ∈ s.struck ↔ ∃ e ∈ s.targets, e.shown ∧ e.index = p := by
  simp only [struck, shownTargets, List.mem_map, List.mem_filter, and_assoc]

/-- What a strike did at a position. -/
def AirStrike.receivedAt (s : AirStrike) (target : Nat) : Received :=
  (s.targets.map (·.received)).getD target {}

theorem AirStrike.Decoded.receivedAt {s : AirStrike} (h : s.Decoded) {e : StrikeEntry}
    (he : e ∈ s.targets) : s.receivedAt e.index = e.received := by
  obtain ⟨p, hp⟩ := List.mem_iff_getElem?.mp he
  rw [h.index hp, AirStrike.receivedAt, List.getD_eq_getElem?_getD, List.getElem?_map, hp]
  rfl

theorem AirStrike.damage_receivedAt (s : AirStrike) (p : Nat) :
    (s.receivedAt p).damage = s.damage.getD p 0 := by
  rw [receivedAt, damage, List.getD_eq_getElem?_getD, List.getD_eq_getElem?_getD,
    List.getElem?_map, List.getElem?_map]
  cases s.targets[p]? <;> rfl

theorem int64OfInt?_ofNat {p : Nat} (hp : p < 2 ^ 63) :
    ∃ t, Text.int64OfInt? p = some t ∧ t.toInt = p := by
  have toInt_ : (Int64.ofNat p).toInt = p := Int64.toInt_ofNat_of_lt hp
  exact ⟨Int64.ofNat p, by rw [← toInt_, Text.int64OfInt?_toInt], toInt_⟩

theorem int64OfInt?_beyond {p : Nat} (hp : ¬ p < 2 ^ 63) : Text.int64OfInt? p = none := by
  cases h : Text.int64OfInt? p with
  | none => rfl
  | some x =>
    have same := Text.toInt_of_int64OfInt? h
    have below := x.toInt_lt
    omega

/-- The launching ships of a strike, each with the positions that the strike shows. -/
def AirStrike.launchers (s : AirStrike) : List Launcher :=
  s.planeFrom.map fun index =>
    ⟨index, s.shownTargets.filterMap fun e => Text.int64OfInt? e.index⟩

theorem AirStrike.mem_named {s : AirStrike} {l : Launcher} (hl : l ∈ s.launchers) {p : Nat}
    (hp : p < 2 ^ 63) : p ∈ l.named ↔ p ∈ s.struck := by
  obtain ⟨index, _, rfl⟩ := List.mem_map.mp hl
  rw [Launcher.mem_named, struck, List.mem_map]
  constructor
  · rintro ⟨t, ht, htp⟩
    obtain ⟨e, he, het⟩ := List.mem_filterMap.mp ht
    have := Text.toInt_of_int64OfInt? het
    exact ⟨e, he, by omega⟩
  · rintro ⟨e, he, rfl⟩
    obtain ⟨t, ht, htp⟩ := int64OfInt?_ofNat hp
    exact ⟨t, List.mem_filterMap.mpr ⟨e, he, ht⟩, htp⟩

theorem AirStrike.mem_flatMap_named {s : AirStrike} (hfrom : s.planeFrom ≠ []) {p : Nat}
    (hp : p < 2 ^ 63) : p ∈ s.launchers.flatMap Launcher.named ↔ p ∈ s.struck := by
  rw [List.mem_flatMap]
  constructor
  · rintro ⟨l, hl, hpl⟩
    exact (mem_named hl hp).mp hpl
  · intro hs
    obtain ⟨index, hindex⟩ := List.exists_mem_of_ne_nil _ hfrom
    have hl : Launcher.mk index _ ∈ s.launchers := List.mem_map.mpr ⟨index, hindex, rfl⟩
    exact ⟨_, hl, (mem_named hl hp).mpr hs⟩

theorem AirStrike.shownTargets_subset (s : AirStrike) : ∀ e ∈ s.shownTargets, e ∈ s.targets :=
  fun _ he => List.mem_of_mem_filter he

theorem recordAll_shown {s : AirStrike} (h : s.Decoded) {es : List StrikeEntry}
    (hes : ∀ e ∈ es, e ∈ s.targets) (g : TargetGroups) :
    es.foldl (fun g e => g.record e.index none e.received) g
      = g.recordAll s.receivedAt (es.map fun e => (e.index, none)) := by
  induction es generalizing g with
  | nil => rfl
  | cons e es ih =>
    obtain ⟨he, hes⟩ := List.forall_mem_cons.mp hes
    rw [List.foldl_cons, ih hes, ← h.receivedAt he]
    rfl

/-- The hits of a strike: each launching ship hits all positions that the strike shows, and
without launching ships they are hit by none. -/
def AirStrike.history (s : AirStrike) : List (Nat × Option Nat) :=
  if s.planeFrom = [] then s.shownTargets.map fun e => (e.index, none) else hitsOf s.launchers

theorem AirStrike.mem_history (s : AirStrike) {p : Nat} (hp : p < 2 ^ 63) :
    p ∈ s.history.map (·.1) ↔ p ∈ s.struck := by
  unfold history
  split
  · rw [List.map_map]
    exact Iff.rfl
  · rename_i hfrom
    rw [targets_hitsOf, targets_attacksOf]
    exact mem_flatMap_named hfrom hp

/-- Grouping a strike records what it did at the positions that it shows. -/
theorem AirStrike.Decoded.tells_groupStrike {s : AirStrike} (h : s.Decoded) :
    (groupStrike s).Tells s.receivedAt s.history := by
  unfold groupStrike history
  by_cases hfrom : s.planeFrom = []
  · rw [if_pos (List.isEmpty_iff.mpr hfrom), if_pos hfrom, recordAll_shown h s.shownTargets_subset]
    exact (TargetGroups.Tells.empty _).recordAll _
  · rw [if_neg (fun h => hfrom (List.isEmpty_iff.mp h)), if_neg hfrom]
    exact tells_groupAttacks s.launchers (s.targets.map (·.received))

theorem AirStrike.Decoded.damageAt_groupStrike {s : AirStrike} (h : s.Decoded) {p : Nat}
    (hp : p < combinedSize) :
    (groupStrike s).damageAt p = if p ∈ s.struck then s.damage.getD p 0 else 0 := by
  have hp : p < 2 ^ 63 := Nat.lt_trans hp (by decide)
  simp only [h.tells_groupStrike.damageAt, s.mem_history hp, damage_receivedAt]

theorem AirStrike.Decoded.not_struck {s : AirStrike} (h : s.Decoded) {p : Nat}
    (shows_ : s.Shows p) (hp : p ∉ s.struck) : s.damage.getD p 0 = 0 := by
  rw [damage, List.getD_eq_getElem?_getD, List.getElem?_map]
  cases he : s.targets[p]? with
  | none => rfl
  | some e =>
    have mem := List.mem_of_getElem? he
    have index := h.index he
    have none_ : ¬ 0 < e.damage := fun hd =>
      hp (mem_struck.mpr ⟨e, mem, shows_ e mem index hd, index⟩)
    exact eq_zero_of_not_pos (h.nonneg e mem) none_

/-! ## Salvos and barrages by target -/

theorem Salvo.getD_received (s : Salvo) (p : Nat) :
    (s.received.getD p {}).damage = s.damage.getD p 0 := by
  rw [damage, List.getD_eq_getElem?_getD, List.getD_eq_getElem?_getD, List.getElem?_map]
  cases s.received[p]? <;> rfl

theorem damageAt_groupSalvo (s : Salvo) (p : Nat) :
    (groupSalvo s).damageAt p
      = if p ∈ s.launchers.flatMap Launcher.named then s.damage.getD p 0 else 0 := by
  rw [groupSalvo, (tells_groupAttacks _ _).damageAt, Salvo.getD_received, targets_hitsOf,
    targets_attacksOf]

theorem Salvo.Decoded.not_named {s : Salvo} (h : s.Decoded) {p : Nat} (shows_ : s.Shows p)
    (hp : p ∉ s.launchers.flatMap Launcher.named) : s.damage.getD p 0 = 0 := by
  rw [damage, List.getD_eq_getElem?_getD, List.getElem?_map]
  cases hr : s.received[p]? with
  | none => rfl
  | some r =>
    have none_ : ¬ 0 < r.damage := fun hd => by
      obtain ⟨l, hl, hpl⟩ := shows_ r hr hd
      exact hp (List.mem_flatMap.mpr ⟨l, hl, Launcher.mem_named.mpr hpl⟩)
    exact eq_zero_of_not_pos (h.nonneg r (List.mem_of_getElem? hr)) none_

theorem Received.damage_of_not_counts {r : Received} (hr : 0 ≤ r.damage.toInt)
    (h : r.counts = false) : r.damage = 0 := by
  rw [counts, Bool.or_eq_false_iff, decide_eq_false_iff_not] at h
  exact eq_zero_of_not_pos hr h.1

/-- The groups with one target of a barrage added, if it counts. -/
def TargetGroups.mergeCounted (g : TargetGroups) (x : Received × Nat) : TargetGroups :=
  if x.1.counts then g.merge x.2 x.1 else g

theorem addBarrage_eq (g : TargetGroups) (b : Barrage) :
    addBarrage g b = b.targets.zipIdx.foldl TargetGroups.mergeCounted g :=
  List.foldl_filter

theorem TargetGroups.InStep.mergeCounted {g : TargetGroups} (h : g.InStep)
    (x : Received × Nat) : (g.mergeCounted x).InStep := by
  unfold TargetGroups.mergeCounted
  split
  · exact h.merge x.2 x.1
  · exact h

/-- The row of a position with one target of a barrage added, if it counts. -/
def withBarrage (row : Option TargetRow) (target : Nat) (r : Received) : Option TargetRow :=
  if r.counts then some ((row.map (·.merge r)).getD (.first target r)) else row

@[simp] theorem TargetGroups.get?_mergeCounted (g : TargetGroups) (r : Received) (k p : Nat) :
    (g.mergeCounted (r, k)).get? p = if k = p then withBarrage (g.get? p) p r else g.get? p := by
  unfold mergeCounted withBarrage
  cases r.counts with
  | true => by_cases h : k = p <;> simp [h]
  | false => simp

/-- Merging what positions received, from a position on, changes the row of each. -/
theorem get?_foldl_mergeCounted (rs : List Received) (k : Nat) (g : TargetGroups) (p : Nat) :
    ((rs.zipIdx k).foldl TargetGroups.mergeCounted g).get? p
      = if k ≤ p then (rs[p - k]?).elim (g.get? p) (withBarrage (g.get? p) p) else g.get? p := by
  induction rs generalizing k g with
  | nil => simp
  | cons r rs ih =>
    rw [List.zipIdx_cons, List.foldl_cons, ih, g.get?_mergeCounted]
    -- the target at the front is before, at or behind the position
    rcases Nat.lt_trichotomy k p with hlt | rfl | hgt
    · obtain ⟨d, rfl⟩ := Nat.exists_eq_add_of_lt hlt
      rw [if_pos (by omega), if_neg (by omega), if_pos (by omega),
        show k + d + 1 - k = d + 1 by omega, show k + d + 1 - (k + 1) = d by omega,
        List.getElem?_cons_succ]
    · rw [if_neg (by omega), if_pos rfl, if_pos (Nat.le_refl _), Nat.sub_self,
        List.getElem?_cons_zero, Option.elim_some]
    · rw [if_neg (by omega), if_neg (by omega), if_neg (by omega)]

@[simp] theorem get?_addBarrage (g : TargetGroups) (b : Barrage) (p : Nat) :
    (addBarrage g b).get? p
      = (b.targets[p]?).elim (g.get? p) (withBarrage (g.get? p) p) := by
  simp [addBarrage_eq, get?_foldl_mergeCounted]

theorem damage_withBarrage (row : Option TargetRow) (p : Nat) {r : Received}
    (hr : 0 ≤ r.damage.toInt) :
    ((withBarrage row p r).map (·.damage)).getD 0
      = addCapped ((row.map (·.damage)).getD 0) r.damage := by
  unfold withBarrage
  cases hc : r.counts with
  | true =>
    cases row with
    | none => exact (zero_addCapped r.damage).symm
    | some row => rfl
  | false =>
    rw [r.damage_of_not_counts hr hc, addCapped_zero]
    rfl

theorem Barrage.Decoded.damageAt_addBarrage {b : Barrage} (h : b.Decoded) (g : TargetGroups)
    (p : Nat) : (addBarrage g b).damageAt p = addCapped (g.damageAt p) (b.damage.getD p 0) := by
  rw [TargetGroups.damageAt, get?_addBarrage, damage, List.getD_eq_getElem?_getD,
    List.getElem?_map]
  cases hr : b.targets[p]? with
  | none => exact (addCapped_zero _).symm
  | some r => exact damage_withBarrage _ p (h.nonneg r (List.mem_of_getElem? hr))

theorem TargetGroups.InStep.addBarrage {g : TargetGroups} (h : g.InStep) (b : Barrage) :
    (addBarrage g b).InStep := by
  rw [addBarrage_eq]
  induction b.targets.zipIdx generalizing g with
  | nil => exact h
  | cons x xs ih => exact ih (h.mergeCounted x)

end Flotilla.Battle
