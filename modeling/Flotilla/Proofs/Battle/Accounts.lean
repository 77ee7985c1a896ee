import Flotilla.Battle.Export
import Flotilla.Proofs.Battle.Grouping
import Flotilla.Proofs.Battle.Summary

/-! # Summaries and attack tables account for the same damage

A summary adds up what each phase did to a position; the exported tables list the
attacks that are shown. The exported damage is never more than the damage in the
summary, and it is the same where no strike and no salvo hides a hit. -/
namespace Flotilla.Battle

open Flotilla.Store (combinedSize)

/-! ## Exported damage -/

/-- The exact damage in exported rows by a side to a target. -/
def exportedDamage (rows : List ExportRow) (by_ : Side) (target : Nat) : Int :=
  total ((rows.filter fun r => r.side = by_ ∧ r.target = target).map (·.damage))

@[simp] theorem exportedDamage_append (rows rows' : List ExportRow) (by_ : Side) (p : Nat) :
    exportedDamage (rows ++ rows') by_ p = exportedDamage rows by_ p + exportedDamage rows' by_ p := by
  simp [exportedDamage]

@[simp] theorem exportedDamage_flatMap (f : α → List ExportRow) (xs : List α) (by_ : Side)
    (p : Nat) :
    exportedDamage (xs.flatMap f) by_ p = (xs.map fun x => exportedDamage (f x) by_ p).sum := by
  induction xs with
  | nil => rfl
  | cons x xs ih => simp [ih]

@[simp] theorem exportedDamage_groupRows (t : AttackTable) (side : Side) {g : TargetGroups}
    (hg : g.InStep) (by_ : Side) (p : Nat) :
    exportedDamage (groupRows t side g) by_ p
      = if side = by_ then (g.damageAt p).toInt else 0 := by
  rw [exportedDamage, groupRows, List.filter_map, List.map_map]
  by_cases hs : side = by_
  · rw [if_pos hs, ← hg.total_damage_filter]
    simp only [Function.comp_def, hs, true_and]
    rfl
  · rw [if_neg hs, List.filter_eq_nil_iff.mpr (by simp [hs])]
    rfl

theorem exportedDamage_attackRows (t : AttackTable) (attacks : List ShellingAttack) (by_ : Side)
    (p : Nat) :
    exportedDamage (attacks.flatMap (attackRows t)) by_ p
      = total ((((attacks.filter fun a => a.side = by_).flatMap (·.hits)).filter
          (·.target == p)).map (·.damage)) := by
  induction attacks with
  | nil => rfl
  | cons a attacks ih =>
    rw [List.flatMap_cons, exportedDamage_append, ih, exportedDamage, attackRows, List.filter_map,
      List.map_map]
    by_cases hs : a.side = by_
    · rw [List.filter_cons_of_pos (by simpa using hs), List.flatMap_cons, List.filter_append,
        List.map_append, total_append]
      simp only [Function.comp_def, hs, true_and]
      rfl
    · rw [List.filter_cons_of_neg (by simpa using hs), List.filter_eq_nil_iff.mpr (by simp [hs])]
      exact Int.zero_add _

/-- The exact damage in a table by a side to a target. -/
def TableBody.damageBy (by_ : Side) (target : Nat) : TableBody → Int
  | .grouped byFriendly byEnemy _ _ => ((by_.pick byFriendly byEnemy).damageAt target).toInt
  | .shelling attacks =>
    total ((((attacks.filter fun a => a.side = by_).flatMap (·.hits)).filter
      (·.target == target)).map (·.damage))

/-- The groups of a table are in step: no target has two rows for a side. -/
def TableBody.InStep : TableBody → Prop
  | .grouped byFriendly byEnemy _ _ => byFriendly.InStep ∧ byEnemy.InStep
  | .shelling _ => True

theorem AttackTable.exportedDamage_exportRows {t : AttackTable} (h : t.body.InStep)
    (by_ : Side) (p : Nat) : exportedDamage t.exportRows by_ p = t.body.damageBy by_ p := by
  unfold exportRows
  cases hbody : t.body with
  | grouped byFriendly byEnemy planes contacts =>
    rw [hbody] at h
    show exportedDamage (groupRows t .friendly byFriendly ++ groupRows t .enemy byEnemy) by_ p = _
    cases by_ <;> simp [h.1, h.2, TableBody.damageBy, Side.pick]
  | shelling attacks => exact exportedDamage_attackRows t attacks by_ p

/-! ## One phase -/

/-- An exported amount that accounts for a loss: it is held below the loss, and it comes to
the loss when all of the loss is shown. -/
structure Accounts (exported : Int) (loss : Int64) (shown : Prop) : Prop where
  nonneg : 0 ≤ exported
  le : capped exported ≤ loss.toInt
  eq : shown → loss.toInt = capped exported

theorem Accounts.of_eq {x : Int64} (hx : 0 ≤ x.toInt) (shown : Prop) :
    Accounts x.toInt x shown :=
  ⟨hx, le_of_eq (capped_toInt x), fun _ => (capped_toInt x).symm⟩

theorem Accounts.nothing (shown : Prop) : Accounts (0 : Int64).toInt 0 shown :=
  ⟨Int.le_refl 0, capped_le 0, fun _ => rfl⟩

theorem Accounts.of_hidden {loss : Int64} {shown : Prop} (hloss : 0 ≤ loss.toInt)
    (h : shown → loss = 0) : Accounts (0 : Int64).toInt loss shown :=
  ⟨Int.le_refl 0, hloss, fun hs => by rw [h hs]; rfl⟩

theorem Accounts.add {x loss y : Int64} {shown : Prop} (h : Accounts x.toInt loss shown)
    (hy : 0 ≤ y.toInt) : Accounts (addCapped x y).toInt (addCapped loss y) shown := by
  have hxl : x.toInt ≤ loss.toInt := capped_toInt x ▸ h.le
  have hloss : 0 ≤ loss.toInt := h.nonneg.trans hxl
  refine ⟨?_, ?_, fun hs => ?_⟩
  · rw [toInt_addCapped h.nonneg hy]
    exact capped_nonneg (Int.add_nonneg h.nonneg hy)
  · rw [capped_toInt, toInt_addCapped h.nonneg hy, toInt_addCapped hloss hy]
    exact capped_mono (Int.add_le_add_right hxl _)
  · rw [capped_toInt, toInt_addCapped h.nonneg hy, toInt_addCapped hloss hy, h.eq hs, capped_toInt]

theorem accounts_strike {o : Option AirStrike} (h : ∀ s ∈ o, s.Decoded) {p : Nat}
    (hp : p < combinedSize) :
    Accounts (((o.map groupStrike).getD {}).damageAt p).toInt
      (((o.map AirStrike.damage).getD []).getD p 0) (∀ s ∈ o, s.Shows p) := by
  cases o with
  | none => exact .nothing _
  | some s =>
    have hs := h s rfl
    have hloss := getD_nonneg hs.damage_nonneg p
    show Accounts ((groupStrike s).damageAt p).toInt (s.damage.getD p 0) _
    rw [hs.damageAt_groupStrike hp]
    by_cases hstruck : p ∈ s.struck
    · rw [if_pos hstruck]
      exact .of_eq hloss _
    · rw [if_neg hstruck]
      exact .of_hidden hloss fun shows_ => hs.not_struck (shows_ s rfl) hstruck

theorem accounts_salvo {o : Option Salvo} (h : ∀ s ∈ o, s.Decoded) (p : Nat) :
    Accounts (((o.map groupSalvo).getD {}).damageAt p).toInt
      (((o.map Salvo.damage).getD []).getD p 0) (∀ s ∈ o, s.Shows p) := by
  cases o with
  | none => exact .nothing _
  | some s =>
    have hs := h s rfl
    have hloss := getD_nonneg hs.damage_nonneg p
    show Accounts ((groupSalvo s).damageAt p).toInt (s.damage.getD p 0) _
    rw [damageAt_groupSalvo]
    by_cases hnamed : p ∈ s.launchers.flatMap Launcher.named
    · rw [if_pos hnamed]
      exact .of_eq hloss _
    · rw [if_neg hnamed]
      exact .of_hidden hloss fun shows_ => hs.not_named (shows_ s rfl) hnamed

theorem accounts_shelling {p : ShellingPhase} (h : (Phase.shelling p).Decoded) (side : Side)
    {q : Nat} (hq : q < combinedSize) :
    Accounts (total (((p.hits side.opponent).filter (·.target == q)).map (·.damage)))
      ((Phase.shelling p).lossAt side q) True := by
  -- the summary leaves out hits behind the last position, none of which is at this one
  have near : (p.hitsOn side).filter (·.target == q)
      = (p.hits side.opponent).filter (·.target == q) := by
    rw [ShellingPhase.hitsOn, List.filter_filter]
    refine List.filter_congr fun t _ => ?_
    by_cases ht : t.target = q
    · simp [ht, hq]
    · simp [ht]
  have nonneg : ∀ x ∈ ((p.hits side.opponent).filter (·.target == q)).map (·.damage), 0 ≤ x.toInt :=
    List.forall_mem_map.mpr fun t ht => ShellingPhase.hits_nonneg h _ t (List.mem_of_mem_filter ht)
  have loss := Phase.lossAt_shelling side q p
  rw [near] at loss
  have exact_ := loss ▸ toInt_sumCapped nonneg
  exact ⟨total_nonneg nonneg, le_of_eq exact_.symm, fun _ => exact_⟩

theorem accounts_support {p : SupportPhase} (h : (Phase.support p).Decoded) {q : Nat}
    (hq : q < combinedSize) :
    Accounts ((groupSupport p).damageAt q).toInt ((Phase.support p).lossAt .enemy q)
      (∀ s ∈ p.air, s.Shows q) := by
  have air := accounts_strike h.1 hq
  rw [Phase.lossAt_support_enemy, groupSupport]
  cases hbarrage : p.barrage with
  | none =>
    show Accounts _ (addCapped _ 0) _
    simpa using air
  | some b =>
    have hb := h.2 b hbarrage
    show Accounts ((addBarrage _ b).damageAt q).toInt _ _
    rw [hb.damageAt_addBarrage]
    exact air.add (getD_nonneg hb.damage_nonneg q)

/-- The table of a phase accounts for what the phase did to a side at a position. -/
theorem Phase.Decoded.accounts {p : Phase} (h : p.Decoded) (s : Store) (f : Store.Formation)
    (areaId : Int64) (side : Side) {q : Nat} (hq : q < combinedSize) :
    Accounts ((tableBody s f areaId p).damageBy side.opponent q) (p.lossAt side q)
      (p.Shows side q) := by
  cases p with
  | air p =>
    have strike := accounts_strike (AirPhase.strike_decoded h side.opponent) hq
    cases side <;> exact strike
  | torpedo p =>
    have salvo := accounts_salvo (TorpedoPhase.salvo_decoded h side.opponent) q
    cases side <;> exact salvo
  | shelling p => exact accounts_shelling h side hq
  | support p =>
    cases side with
    | friendly => exact .nothing _
    | enemy =>
      have support := accounts_support h hq
      exact ⟨support.nonneg, support.le, fun shows_ => support.eq (shows_ rfl)⟩

theorem inStep_strike {o : Option AirStrike} (h : ∀ s ∈ o, s.Decoded) :
    ((o.map groupStrike).getD {}).InStep := by
  cases o with
  | none => exact .empty
  | some s => exact (h s rfl).tells_groupStrike.toInStep

theorem inStep_salvo (o : Option Salvo) : ((o.map groupSalvo).getD {}).InStep := by
  cases o with
  | none => exact .empty
  | some s => exact (tells_groupAttacks s.launchers s.received).toInStep

theorem Phase.Decoded.inStep {p : Phase} (h : p.Decoded) (s : Store) (f : Store.Formation)
    (areaId : Int64) : (tableBody s f areaId p).InStep := by
  cases p with
  | air p => exact ⟨inStep_strike h.1, inStep_strike h.2⟩
  | torpedo p => exact ⟨inStep_salvo _, inStep_salvo _⟩
  | shelling p => trivial
  | support p =>
    refine ⟨?_, .empty⟩
    show (groupSupport p).InStep
    unfold groupSupport
    cases p.barrage with
    | none => exact inStep_strike h.1
    | some b => exact (inStep_strike h.1).addBarrage b

/-! ## All phases -/

theorem Accounts.sum {xs : List α} {exported : α → Int} {loss : α → Int64} {shown : α → Prop}
    (h : ∀ a ∈ xs, Accounts (exported a) (loss a) (shown a)) :
    capped (xs.map exported).sum ≤ capped (total (xs.map loss)) ∧
      ((∀ a ∈ xs, shown a) → capped (total (xs.map loss)) = capped (xs.map exported).sum) := by
  rw [← capped_sum_capped (List.forall_mem_map.mpr fun a ha => (h a ha).nonneg), List.map_map,
    total, List.map_map]
  refine ⟨capped_mono (List.sum_le_sum fun a ha => (h a ha).le), fun hs => congrArg _ ?_⟩
  exact congrArg List.sum (List.map_congr_left fun a ha => (h a ha).eq (hs a ha))

/-- The tables of a battle, phase by phase. -/
theorem map_body_attackTables (s : Store) (b : Battle) :
    (attackTables s b).map (·.body)
      = b.phases.map (tableBody s (Store.formation s.fleets b.fleetId b.combined) b.areaId) := by
  rw [attackTables, phases, List.map_flatMap, List.flatMap_map, List.map_flatMap]
  exact List.flatMap_congr fun x _ => List.map_map

theorem table_of_phase (s : Store) {b : Battle} {i : Nat} {p : Phase} (hp : b.phases[i]? = some p) :
    ∃ t, (attackTables s b)[i]? = some t ∧
      t.body = tableBody s (Store.formation s.fleets b.fleetId b.combined) b.areaId p := by
  have bodies := congrArg (·[i]?) (map_body_attackTables s b)
  simp only [List.getElem?_map, hp, Option.map_some, Option.map_eq_some_iff] at bodies
  exact bodies

theorem exportedDamage_attackTables {b : Battle} (h : b.Decoded) (s : Store) (by_ : Side)
    (p : Nat) :
    exportedDamage (exportRows (attackTables s b)) by_ p
      = (b.phases.map fun phase => (tableBody s (Store.formation s.fleets b.fleetId b.combined)
          b.areaId phase).damageBy by_ p).sum := by
  rw [exportRows, exportedDamage_flatMap, attackTables, phases, List.map_flatMap, List.flatMap_map,
    List.map_flatMap]
  refine congrArg List.sum (List.flatMap_congr fun x hx => ?_)
  rw [List.map_map]
  exact List.map_congr_left fun phase hphase =>
    AttackTable.exportedDamage_exportRows ((h.segment hx phase hphase).inStep s _ b.areaId) by_ p

/-- The summary and the exported attack tables of an accepted battle account for the same
damage: a row shows at least the exported damage of the other side at its position, held at
the greatest integer, and just that where nothing is hidden. -/
theorem summary_accounts_for_exported (s : Store) {text : String} {b : Battle}
    (h : ofText text = .ok b) {side : Side} {row : CombatantRow}
    (hrow : row ∈ ((summarize s b).side side).rows) (hp : row.position < combinedSize) :
    let exported := exportedDamage (exportRows (attackTables s b)) side.opponent row.position
    min exported Int64.maxValue.toInt ≤ row.damage.toInt ∧
      (b.NothingHidden side row.position →
        row.damage.toInt = min exported Int64.maxValue.toInt) := by
  intro exported
  have decoded := decoded_of_ofText h
  have accounts := Accounts.sum fun phase hphase =>
    (decoded.phases phase hphase).accounts s (Store.formation s.fleets b.fleetId b.combined)
      b.areaId side hp
  rw [← exportedDamage_attackTables decoded, ← lossOver, ← decoded.toInt_damage_row s hrow]
    at accounts
  exact accounts

theorem skirmish_nothingHidden : skirmish.NothingHidden .friendly 0 := by
  intro p hp
  have two : p ∈ [_, _] := hp
  rcases List.mem_pair.mp two with rfl | rfl
  · rintro _ ⟨⟩ _ ⟨⟩ _
    exact ⟨_, List.mem_cons_self, _, List.mem_cons_self, rfl⟩
  · trivial

/-- Both attacks of the skirmish are exported. -/
theorem skirmish_accounts :
    skirmishRow.damage.toInt
      = min (exportedDamage (exportRows (attackTables {} skirmish)) .enemy 0)
          Int64.maxValue.toInt :=
  (summary_accounts_for_exported {} ofText_skirmish skirmishRow_mem (by decide)).2
    skirmish_nothingHidden

end Flotilla.Battle
