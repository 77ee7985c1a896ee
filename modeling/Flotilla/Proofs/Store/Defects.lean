import Mathlib.Algebra.GroupWithZero.Nat
import Mathlib.Data.Finset.Card
import Flotilla.Proofs.Store.Audit
import Flotilla.Proofs.Store.Formation

/-! # What the audit counts

The audit walks once over a store and reports what it meets on the way. Its counts are those of the
defects themselves: each reference that leads nowhere, each roster that a formation cuts short and
each record without a template is reported once, and of the positions of one ship all but the first
are. The walk over rosters carries the ships met so far; that the repetitions it reports and the
distinct ships add up to the occupied positions is the invariant of the walk. -/
namespace Flotilla.Store

/-! ## Counting findings -/

section Counting

variable {α : Type} (severity : Severity)

@[simp] theorem countOf_append (xs ys : List Finding) :
    countOf severity (xs ++ ys) = countOf severity xs + countOf severity ys :=
  List.countP_append

@[simp] theorem countOf_flatMap (f : α → List Finding) (xs : List α) :
    countOf severity (xs.flatMap f) = (xs.map fun x => countOf severity (f x)).sum :=
  List.countP_flatMap

theorem countOf_map {own : Severity} {f : α → Finding} (same : ∀ x, (f x).severity = own)
    (xs : List α) : countOf severity (xs.map f) = if own = severity then xs.length else 0 := by
  rw [countOf, List.countP_map]
  split <;> rename_i h <;> simp [Function.comp_def, same, h]

@[simp] theorem countOf_when (c : Prop) [Decidable c] (f : Finding) :
    countOf severity (if c then [f] else []) = if c ∧ f.severity = severity then 1 else 0 := by
  by_cases h : c <;> simp [countOf, h, List.countP_cons]

@[simp] theorem countOf_unless (c : Prop) [Decidable c] (f : Finding) :
    countOf severity (if c then [] else [f]) = if ¬ c ∧ f.severity = severity then 1 else 0 := by
  rw [← ite_not, countOf_when]

/-- One for each element with a property. -/
theorem sum_map_when (c : α → Bool) (xs : List α) :
    (xs.map fun x => if c x then 1 else 0).sum = xs.countP c := by
  induction xs with
  | nil => rfl
  | cons x xs ih => rw [List.map_cons, List.sum_cons, ih, List.countP_cons, Nat.add_comm]

end Counting

/-! ## Rosters -/

theorem toFinset_met_auditRoster (ships : Table Ship) (fleetId : Int64)
    (roster : List (Int64 × Nat)) (met : List Int64) :
    (auditRoster ships fleetId roster met).2.toFinset
      = (met ++ crew (roster.map (·.1))).toFinset := by
  ext k
  simp [mem_met_auditRoster]

/-- Behind a position its ship has been met. -/
theorem toFinset_meet (id : Int64) (met ids : List Int64) :
    ((if met.contains id then met else id :: met) ++ ids).toFinset
      = (met ++ id :: ids).toFinset := by
  have behind : (met ++ id :: ids).toFinset = insert id (met ++ ids).toFinset := by
    ext k
    simp
  rw [behind]
  by_cases again : id ∈ met
  · have here : id ∈ (met ++ ids).toFinset := by simp [again]
    rw [if_pos (by simpa using again), Finset.insert_eq_of_mem here]
  · rw [if_neg (by simpa using again), List.cons_append, List.toFinset_cons]

/-- A ship is met again, or there is one ship more. -/
theorem card_meet (id : Int64) (met : List Int64) :
    (if met.contains id then met else id :: met).toFinset.card
      + (if met.contains id then 1 else 0) = met.toFinset.card + 1 := by
  by_cases again : id ∈ met <;> simp [again]

/-- The findings of a roster: an error for each absent ship, and a warning for each position at
which a ship stands that was met before. -/
theorem countOf_auditRoster (ships : Table Ship) (fleetId : Int64) (roster : List (Int64 × Nat))
    (met : List Int64) :
    let findings := (auditRoster ships fleetId roster met).1
    let ids := crew (roster.map (·.1))
    countOf .error findings = ids.countP (fun id => !ships.contains id) ∧
      countOf .warning findings + (met ++ ids).toFinset.card = ids.length + met.toFinset.card ∧
      countOf .info findings = 0 := by
  induction roster generalizing met with
  | nil => simp [auditRoster, crew, countOf]
  | cons entry rest ih =>
    obtain ⟨id, position⟩ := entry
    rw [List.map_cons]
    by_cases occupied : 0 < id
    · obtain ⟨errors, warnings, infos⟩ := ih (if met.contains id then met else id :: met)
      rw [toFinset_meet] at warnings
      have meet := card_meet id met
      rw [auditRoster_of_pos ships fleetId occupied, crew_cons_of_pos occupied]
      simp only [countOf_append, countOf_unless, countOf_when, Finding.severity, errors, infos]
      refine ⟨?_, ?_, by simp⟩
      · rw [List.countP_cons]
        by_cases known : ships.contains id = true <;> simp [known, Nat.add_comm]
      · simp only [reduceCtorEq, and_true, and_false, if_false, List.length_cons]
        omega
    · rw [auditRoster_of_not ships fleetId occupied, crew_cons_of_not occupied]
      exact ih met

/-- The findings of fleets, with a warning more for each roster that is too long. -/
theorem countOf_auditFleets (ships : Table Ship) (mode : CombinedMode) (fleets : List Fleet)
    (met : List Int64) :
    let findings := auditFleets ships mode fleets met
    let ids := crews fleets
    countOf .error findings = ids.countP (fun id => !ships.contains id) ∧
      countOf .warning findings + (met ++ ids).toFinset.card
        = fleets.countP (fun f => usable mode f.id < f.shipIds.length) + ids.length
          + met.toFinset.card ∧
      countOf .info findings = 0 := by
  induction fleets generalizing met with
  | nil => simp [auditFleets, crews, countOf]
  | cons fleet rest ih =>
    have roster := countOf_auditRoster ships fleet.id fleet.shipIds.zipIdx met
    have met_ := toFinset_met_auditRoster ships fleet.id fleet.shipIds.zipIdx met
    rw [List.zipIdx_map_fst] at roster met_
    obtain ⟨errors, warnings, infos⟩ := roster
    obtain ⟨errorsRest, warningsRest, infosRest⟩ :=
      ih (auditRoster ships fleet.id fleet.shipIds.zipIdx met).2
    have ids : crews (fleet :: rest) = crew fleet.shipIds ++ crews rest := List.flatMap_cons
    rw [List.toFinset_append, met_, ← List.toFinset_append, List.append_assoc, ← ids]
      at warningsRest
    simp only [auditFleets, countOf_append, countOf_when, Finding.severity, errors, infos,
      errorsRest, infosRest]
    refine ⟨?_, ?_, by simp⟩
    · rw [ids, List.countP_append]
      simp
    · simp only [ids, List.countP_cons, List.length_append] at warningsRest ⊢
      simp only [decide_eq_true_eq, and_true]
      omega

/-! ## Ships, equipment and air bases -/

theorem countOf_auditShip (s : Store) (ship : Ship) :
    countOf .error (s.auditShip ship) = ship.equipped.countP (fun id => !s.equipment.contains id) ∧
      countOf .warning (s.auditShip ship)
        = (if !s.shipTemplates.contains ship.templateId then 1 else 0) ∧
      countOf .info (s.auditShip ship) = 0 := by
  have absent (severity : Severity) := countOf_map severity (f := Finding.equippedAbsent ship.id)
    (fun _ => rfl) (ship.equipped.filter fun id => !s.equipment.contains id)
  simp only [auditShip, countOf_append, countOf_unless, absent, Finding.severity]
  by_cases known : s.shipTemplates.contains ship.templateId = true <;>
    simp [known, List.countP_eq_length_filter]

/-- The findings of ships: an error for each occupied slot whose equipment is absent, and a warning
for each ship without a template. -/
theorem countOf_auditShips (s : Store) (ships : List Ship) :
    let findings := ships.flatMap s.auditShip
    countOf .error findings
        = (ships.flatMap Ship.equipped).countP (fun id => !s.equipment.contains id) ∧
      countOf .warning findings
        = ships.countP (fun ship => !s.shipTemplates.contains ship.templateId) ∧
      countOf .info findings = 0 := by
  have own (ship : Ship) := countOf_auditShip s ship
  simp only [countOf_flatMap, fun ship => (own ship).1, fun ship => (own ship).2.1,
    fun ship => (own ship).2.2]
  refine ⟨?_, sum_map_when _ ships, by simp⟩
  rw [List.countP_flatMap]
  rfl

theorem countOf_auditEquipment (s : Store) (severity : Severity) (items : List Equipment) :
    countOf severity (items.flatMap s.auditEquipment)
      = if severity = .warning then
          items.countP (fun item => !s.equipmentTemplates.contains item.templateId) else 0 := by
  simp only [countOf_flatMap, auditEquipment, countOf_unless, Finding.severity]
  by_cases own : severity = .warning
  · rw [if_pos own, ← sum_map_when]
    simp [own]
  · simp [own, Ne.symm own]

theorem countOf_auditAirBases (s : Store) (severity : Severity) (bases : List AirBase) :
    countOf severity (bases.flatMap s.auditAirBase)
      = if severity = .info then (bases.flatMap (·.squadrons)).countP (fun q =>
          0 < q.equipmentId && !s.equipment.contains q.equipmentId) else 0 := by
  have absent (base : AirBase) := countOf_map severity
    (f := fun q : Squadron => .squadronAbsent base.areaId base.baseId q.slotId q.equipmentId)
    fun _ => rfl
  simp only [countOf_flatMap, auditAirBase, absent, ← List.countP_eq_length_filter]
  by_cases own : severity = .info
  · simp [own, List.countP_flatMap, Function.comp_def]
  · simp [own, Ne.symm own]

/-! ## The whole store -/

/-- A position of a roster is missing from the formation of its fleet. -/
def LeavesOut (s : Store) (f : Fleet) : Prop :=
  ∃ p < f.shipIds.length, ∀ b ∈ (formation s.fleets f.id s.combined).berths, b.position ≠ p

instance (s : Store) (f : Fleet) : Decidable (s.LeavesOut f) :=
  inferInstanceAs (Decidable (∃ p < f.shipIds.length, _))

/-- The walk and the formation agree on how much of a roster is usable. -/
theorem leavesOut_iff {s : Store} {f : Fleet} (hf : f ∈ s.fleets.rows) :
    s.LeavesOut f ↔ usable s.combined f.id < f.shipIds.length := by
  have positions := positions_formation s.fleets f.id s.combined
  have own : s.fleets.get? f.id = some f := Table.mem_rows_iff.mp hf
  rw [rosterOf_of_get? own] at positions
  have placed (p : Nat) : (∀ b ∈ (formation s.fleets f.id s.combined).berths, b.position ≠ p) ↔
      min f.shipIds.length (usable s.combined f.id) ≤ p := by
    rw [← Nat.not_lt, ← List.mem_range, ← positions, List.mem_map]
    simp
  simp only [LeavesOut, placed]
  constructor
  · rintro ⟨p, inside, behind⟩
    omega
  · intro long
    exact ⟨usable s.combined f.id, long, Nat.min_le_right _ _⟩

/-- What the audit counts of a store: its errors are the ships of rosters and the occupied slots
of ships that lead nowhere, its warnings the fleets of which a formation leaves a position out,
the positions that repeat a ship, and the records without a template. -/
theorem audit_counts (s : Store) :
    let ids := crews s.fleets.rows
    countOf .error s.audit
        = ids.countP (fun id => !s.ships.contains id)
          + (s.ships.rows.flatMap Ship.equipped).countP (fun id => !s.equipment.contains id) ∧
      countOf .warning s.audit
        = s.fleets.rows.countP (fun f => s.LeavesOut f)
          + (ids.length - ids.toFinset.card)
          + s.ships.rows.countP (fun ship => !s.shipTemplates.contains ship.templateId)
          + s.equipment.rows.countP (fun item => !s.equipmentTemplates.contains item.templateId) ∧
      countOf .info s.audit
        = (s.airBases.flatMap (·.squadrons)).countP (fun q =>
            0 < q.equipmentId && !s.equipment.contains q.equipmentId) := by
  obtain ⟨errors, warnings, infos⟩ :=
    countOf_auditFleets s.ships s.combined s.fleets.rows []
  obtain ⟨shipErrors, shipWarnings, shipInfos⟩ := countOf_auditShips s s.ships.rows
  have leftOut : s.fleets.rows.countP (fun f => usable s.combined f.id < f.shipIds.length)
      = s.fleets.rows.countP (fun f => s.LeavesOut f) :=
    List.countP_congr fun f hf => by simp [leavesOut_iff hf]
  have repeats := List.toFinset_card_le (crews s.fleets.rows)
  rw [leftOut, List.nil_append, List.toFinset_nil, Finset.card_empty] at warnings
  simp only [audit, countOf_append, countOf_auditEquipment, countOf_auditAirBases, errors, infos,
    shipErrors, shipWarnings, shipInfos]
  refine ⟨by simp, ?_, by simp⟩
  simp only [if_true, reduceCtorEq, if_false]
  omega

/-! ## Rosters that are too long -/

/-- At a position of a roster no finding is about its length. -/
theorem not_rosterTooLong_of_mem_auditRoster {ships : Table Ship} {fleetId : Int64}
    {roster : List (Int64 × Nat)} {met : List Int64} {id : Int64} {length limit : Nat} :
    .rosterTooLong id length limit ∉ (auditRoster ships fleetId roster met).1 := by
  induction roster generalizing met with
  | nil => simp [auditRoster]
  | cons entry rest ih =>
    obtain ⟨ship, position⟩ := entry
    by_cases occupied : 0 < ship
    · rw [auditRoster_of_pos ships fleetId occupied]
      simp [ih]
    · rw [auditRoster_of_not ships fleetId occupied]
      exact ih

theorem rosterTooLong_mem_auditFleets {ships : Table Ship} {mode : CombinedMode}
    {fleets : List Fleet} {met : List Int64} {id : Int64} {length limit : Nat} :
    .rosterTooLong id length limit ∈ auditFleets ships mode fleets met ↔
      ∃ f ∈ fleets, f.id = id ∧ f.shipIds.length = length ∧ usable mode id = limit ∧
        limit < length := by
  induction fleets generalizing met with
  | nil => simp [auditFleets]
  | cons fleet rest ih =>
    simp only [auditFleets, List.mem_append, not_rosterTooLong_of_mem_auditRoster, ih, or_false,
      List.exists_mem_cons_iff]
    refine or_congr_left ?_
    constructor
    · intro found
      split at found <;> simp at found
      obtain ⟨rfl, rfl, rfl⟩ := found
      exact ⟨rfl, rfl, rfl, ‹_›⟩
    · rintro ⟨rfl, rfl, rfl, long⟩
      simp [long]

/-- The audit reports the length of a roster exactly when it goes beyond the usable positions. -/
theorem rosterTooLong_mem_audit {s : Store} {id : Int64} {length limit : Nat} :
    .rosterTooLong id length limit ∈ s.audit ↔
      ∃ f, s.fleets.get? id = some f ∧ f.shipIds.length = length ∧ usable s.combined id = limit ∧
        limit < length := by
  have ships : .rosterTooLong id length limit ∉ s.ships.rows.flatMap s.auditShip := by
    simp [auditShip]
  have equipment :
      .rosterTooLong id length limit ∉ s.equipment.rows.flatMap s.auditEquipment := by
    simp [auditEquipment]
  have airBases : .rosterTooLong id length limit ∉ s.airBases.flatMap s.auditAirBase := by
    simp [auditAirBase]
  simp only [audit, List.mem_append, rosterTooLong_mem_auditFleets, ships, equipment, airBases,
    or_false]
  refine exists_congr fun f => ?_
  constructor
  · rintro ⟨hf, rfl, found⟩
    exact ⟨Table.mem_rows_iff.mp hf, found⟩
  · rintro ⟨hf, found⟩
    exact ⟨List.mem_of_find?_eq_some hf, Table.key_of_get? hf, found⟩

end Flotilla.Store
