import Flotilla.Proofs.Battle.Summary

/-! # Damage behind the last position

A combined fleet ends at its twelfth position, yet a roster or a list of hit points may be longer,
and so may the lists of a phase. Shelling leaves out what it says of positions behind the last.
Strikes, salvos and barrages are added up as far as their lists reach, so the rows behind the last
position show what these lists hold there. -/
namespace Flotilla.Battle

open Flotilla.Store (combinedSize)

/-! ## Rows in front and behind -/

/-- The rows at the positions of a combined fleet. -/
def SideSummary.front (s : SideSummary) : List CombatantRow :=
  s.rows.filter (·.position < combinedSize)

/-- The rows behind the last position of a combined fleet. -/
def SideSummary.beyond (s : SideSummary) : List CombatantRow :=
  s.rows.filter fun row => !decide (row.position < combinedSize)

theorem SideSummary.mem_beyond {s : SideSummary} {row : CombatantRow} :
    row ∈ s.beyond ↔ row ∈ s.rows ∧ combinedSize ≤ row.position := by
  simp [beyond, List.mem_filter]

/-- The damage to a side, taken apart at the last position. -/
theorem SideSummary.total_rows (s : SideSummary) :
    total (s.rows.map (·.damage))
      = total (s.front.map (·.damage)) + total (s.beyond.map (·.damage)) := by
  rw [← total_append, ← List.map_append]
  exact total_perm ((List.filter_append_perm _ s.rows).symm.map _)

/-! ## What phases carry behind the last position -/

/-- The amounts at a position in the series of a phase against a side: those of a strike, a salvo
or a barrage. The hits of shelling are no series. -/
def Phase.carried (side : Side) (position : Nat) : Phase → List Int64
  | .air p => ((p.strike side.opponent).bind (·.damage[position]?)).toList
  | .torpedo p => ((p.salvo side.opponent).bind (·.damage[position]?)).toList
  | .shelling _ => []
  | .support p => side.pick []
      ((p.air.bind (·.damage[position]?)).toList ++ (p.barrage.bind (·.damage[position]?)).toList)

/-- The amounts at a position in all series of a battle against a side. -/
def carried (b : Battle) (side : Side) (position : Nat) : List Int64 :=
  b.phases.flatMap (Phase.carried side position)

section

variable {α : Type} {o : Option α} {f : α → List Int64}

theorem toInt_getD_series (o : Option α) (f : α → List Int64) (q : Nat) :
    (((o.map f).getD []).getD q 0).toInt = total (o.bind fun a => (f a)[q]?).toList := by
  cases o with
  | none => rfl
  | some a =>
    show ((f a).getD q 0).toInt = total ((f a)[q]?).toList
    rw [List.getD_eq_getElem?_getD]
    cases (f a)[q]? with
    | none => rfl
    | some x => exact (Int.add_zero _).symm

theorem carried_series_nonneg (h : ∀ a ∈ o, ∀ x ∈ f a, 0 ≤ x.toInt) (q : Nat) :
    ∀ x ∈ (o.bind fun a => (f a)[q]?).toList, 0 ≤ x.toInt := by
  intro x hx
  obtain ⟨a, ha, held⟩ := Option.bind_eq_some_iff.mp (Option.mem_toList.mp hx)
  exact h a ha x (List.mem_of_getElem? held)

end

theorem Phase.Decoded.carried_nonneg {p : Phase} (h : p.Decoded) (side : Side) (q : Nat) :
    ∀ x ∈ p.carried side q, 0 ≤ x.toInt := by
  cases p with
  | air p =>
    exact carried_series_nonneg (fun s hs => (AirPhase.strike_decoded h _ s hs).damage_nonneg) q
  | torpedo p =>
    exact carried_series_nonneg (fun s hs => (TorpedoPhase.salvo_decoded h _ s hs).damage_nonneg) q
  | shelling p => exact nofun
  | support p =>
    cases side with
    | friendly => exact nofun
    | enemy =>
      exact List.forall_mem_append.mpr
        ⟨carried_series_nonneg (fun s hs => (h.1 s hs).damage_nonneg) q,
          carried_series_nonneg (fun s hs => (h.2 s hs).damage_nonneg) q⟩

/-- Behind the last position a phase does what its series hold, and shelling does nothing. -/
theorem Phase.Decoded.lossAt_beyond {p : Phase} (h : p.Decoded) (side : Side) {q : Nat}
    (hq : combinedSize ≤ q) : (p.lossAt side q).toInt = capped (total (p.carried side q)) := by
  cases p with
  | air p =>
    rw [lossAt_air, ← capped_toInt, toInt_getD_series]
    rfl
  | torpedo p =>
    rw [lossAt_torpedo, ← capped_toInt, toInt_getD_series]
    rfl
  | shelling p =>
    -- the hits that count all have targets in front
    have none_ : (p.hitsOn side).filter (·.target == q) = [] := by
      refine List.filter_eq_nil_iff.mpr fun t ht => ?_
      have near := (ShellingPhase.mem_hitsOn.mp ht).2
      simp only [beq_iff_eq]
      omega
    rw [lossAt_shelling, none_]
    rfl
  | support p =>
    cases side with
    | friendly => rfl
    | enemy =>
      have air := getD_series_nonneg (fun s hs => (h.1 s hs).damage_nonneg) q
      have barrage := getD_series_nonneg (fun s hs => (h.2 s hs).damage_nonneg) q
      rw [lossAt_support_enemy, toInt_addCapped air barrage, toInt_getD_series, toInt_getD_series,
        ← total_append]
      rfl

theorem Decoded.carried_nonneg {b : Battle} (h : b.Decoded) (side : Side) (q : Nat) :
    ∀ x ∈ b.carried side q, 0 ≤ x.toInt :=
  List.forall_mem_flatMap.mpr fun p hp => (h.phases p hp).carried_nonneg side q

/-- Behind the last position the loss over all phases is what their series hold. -/
theorem Decoded.lossOver_beyond {b : Battle} (h : b.Decoded) (side : Side) {q : Nat}
    (hq : combinedSize ≤ q) :
    capped (lossOver side q b.phases) = capped (total (b.carried side q)) := by
  have phases : b.phases.map (fun p => (p.lossAt side q).toInt)
      = (b.phases.map fun p => total (p.carried side q)).map capped := by
    rw [List.map_map]
    exact List.map_congr_left fun p hp => (h.phases p hp).lossAt_beyond side hq
  have nonneg : ∀ z ∈ b.phases.map fun p => total (p.carried side q), 0 ≤ z :=
    List.forall_mem_map.mpr fun p hp => total_nonneg ((h.phases p hp).carried_nonneg side q)
  rw [carried, total_flatMap, ← capped_sum_capped nonneg, ← phases, lossOver, total, List.map_map]
  rfl

/-! ## When nothing is added -/

/-- The damage to a side is that of the rows in front when the rows behind have none, or when the
damage in front is at the greatest integer anyway. -/
theorem SideSummary.totalDamage_eq_front_iff {s : SideSummary}
    (nonneg : ∀ row ∈ s.rows, 0 ≤ row.damage.toInt) :
    s.totalDamage = sumCapped (s.front.map (·.damage)) ↔
      (∀ row ∈ s.beyond, row.damage = 0) ∨
        Int64.maxValue.toInt ≤ total (s.front.map (·.damage)) := by
  have all : ∀ x ∈ s.rows.map (·.damage), 0 ≤ x.toInt := List.forall_mem_map.mpr nonneg
  have front : ∀ x ∈ s.front.map (·.damage), 0 ≤ x.toInt :=
    List.forall_mem_map.mpr fun row hrow => nonneg row (List.mem_of_mem_filter hrow)
  have behind : ∀ x ∈ s.beyond.map (·.damage), 0 ≤ x.toInt :=
    List.forall_mem_map.mpr fun row hrow => nonneg row (List.mem_of_mem_filter hrow)
  have without : (∀ row ∈ s.beyond, row.damage = 0) ↔ total (s.beyond.map (·.damage)) = 0 := by
    rw [total_eq_zero_iff behind]
    simp only [List.forall_mem_map]
  rw [without, ← capped_add_eq_left_iff (total_nonneg behind), ← s.total_rows,
    ← toInt_sumCapped all, ← toInt_sumCapped front, Int64.toInt_inj]
  rfl

/-- The rows of an accepted battle behind the last position show what strikes, salvos and barrages
hold there. They are without damage only where all of that is zero, and only then, or when the
damage in front is at the greatest integer anyway, is the damage to the side that of the rows in
front. -/
theorem damage_beyond (s : Store) {text : String} {b : Battle} (h : ofText text = .ok b)
    (side : Side) :
    let summary := (summarize s b).side side
    let nothing := ∀ row ∈ summary.beyond, ∀ x ∈ b.carried side row.position, x = 0
    (∀ row ∈ summary.beyond,
      row.damage.toInt = min (total (b.carried side row.position)) Int64.maxValue.toInt) ∧
    ((∀ row ∈ summary.beyond, row.damage = 0) ↔ nothing) ∧
    (summary.totalDamage = sumCapped (summary.front.map (·.damage)) ↔
      nothing ∨ Int64.maxValue.toInt ≤ total (summary.front.map (·.damage))) := by
  intro summary nothing
  have decoded := decoded_of_ofText h
  have shown : ∀ row ∈ summary.beyond,
      row.damage.toInt = capped (total (b.carried side row.position)) := by
    intro row hrow
    obtain ⟨member, behind⟩ := SideSummary.mem_beyond.mp hrow
    rw [decoded.toInt_damage_row s member, decoded.lossOver_beyond side behind]
  have without : (∀ row ∈ summary.beyond, row.damage = 0) ↔ nothing := by
    refine forall₂_congr fun row hrow => ?_
    rw [← toInt_eq_zero_iff, shown row hrow, capped_eq_zero_iff,
      total_eq_zero_iff (decoded.carried_nonneg side _)]
  have nonneg : ∀ row ∈ summary.rows, 0 ≤ row.damage.toInt := by
    intro row hrow
    rw [decoded.toInt_damage_row s hrow]
    exact capped_nonneg (lossOver_nonneg decoded.phases side _)
  exact ⟨shown, without, (SideSummary.totalDamage_eq_front_iff nonneg).trans (or_congr_left without)⟩

/-- A feed with thirteen enemies: a salvo takes 7 from the last one and an attack 5 more. -/
def thirteenText : String :=
  "[\"13\",0,0,0,1,0,[[1,1,1,1,1,1,1,1,1,1,1,1,1]],[[],[]," ++
    "[[\"torpedo\",\"opening\",[[],[0,0,0,0,0,0,0,0,0,0,0,0,7]]]," ++
    "[\"shelling\",\"first\",[[\"friendly\",0,0,[12],[5]]]]]]]"

/-- The battle that the feed gives. -/
def thirteen : Battle where
  id := "13"
  enemy := { shipIds := List.replicate 13 1 }
  day := some
    { phases := [
        .torpedo { friendly := some ⟨[], List.replicate 12 {} ++ [{ damage := 7 }]⟩ },
        .shelling { stage := .first, attacks := [⟨.friendly, 0, 0, [⟨12, 5, none, false, .normal⟩]⟩] }] }

theorem ofText_thirteen : ofText thirteenText = .ok thirteen := by decide +kernel

theorem damage_beyond_thirteen :
    ((summarize {} thirteen).side .enemy).totalDamage
      ≠ sumCapped (((summarize {} thirteen).side .enemy).front.map (·.damage)) := by
  obtain ⟨_, without, inFront⟩ := damage_beyond {} ofText_thirteen .enemy
  rw [ne_eq, inFront, ← without]
  decide +kernel

/-- The salvo is carried into the summary, behind the last position. -/
theorem carried_of_thirteenText :
    ∃ b, ofText thirteenText = .ok b ∧ ∃ row ∈ ((summarize {} b).side .enemy).rows,
      row.position = combinedSize ∧ row.damage = 7 ∧
        ((summarize {} b).side .enemy).totalDamage = 7 := by
  refine ⟨thirteen, ofText_thirteen, ?_⟩
  decide +kernel

end Flotilla.Battle
