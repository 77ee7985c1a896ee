import Mathlib.Data.Finset.Sort
import Flotilla.Proofs.Battle.Flown

/-! # Planes by the positions that launched

A strike names its launching ships by position, in any order and as often as it likes. The pool
goes through the distinct positions in ascending order, and a list has only one such form for the
set of its elements. So the pool, and with it the planes that a table lists, is told by that set. -/
namespace Flotilla.Battle

open Flotilla.Store

/-! ## Distinct positions -/

theorem ascending_distinctPositions (positions : List Nat) :
    (distinctPositions positions).Pairwise (· < ·) := by
  induction positions with
  | nil => exact .nil
  | cons n ns ih => exact Ascending.place ih n

/-- The distinct positions of a list are the elements of its set in ascending order. -/
theorem distinctPositions_eq_sort (positions : List Nat) :
    distinctPositions positions = positions.toFinset.sort (· ≤ ·) := by
  have ascending := ascending_distinctPositions positions
  have same : positions.toFinset = (distinctPositions positions).toFinset := by
    ext n
    simp
  rw [same]
  exact ((List.toFinset_sort (· ≤ ·) (ascending.imp Nat.ne_of_lt)).mpr
    (ascending.imp Nat.le_of_lt)).symm

/-! ## The planes of a ship -/

/-- The plane that an item of a ship is: the store knows the item, and its template is an
aircraft or unknown. The id of an empty slot is no item. -/
def carried? (s : Store) (id : Int64) : Option PlaneSlot := do
  guard (0 < id)
  let item ← s.equipment.get? id
  guard (∀ template ∈ s.equipmentTemplates.get? item.templateId, template.isPlane)
  return ⟨id, item.templateId⟩

theorem carried?_of_empty {s : Store} {id : Int64} (h : ¬ 0 < id) : carried? s id = none := by
  simp [carried?, h]

theorem carried?_of_occupied {s : Store} {id : Int64} (h : 0 < id) :
    carried? s id = (planeSlot? s id).filter (mayFly s) := by
  cases known : s.equipment.get? id with
  | none => simp [carried?, planeSlot?, known]
  | some item =>
    cases found : s.equipmentTemplates.get? item.templateId with
    | none => simp [carried?, planeSlot?, mayFly, Option.filter_some, h, known, found]
    | some template =>
      cases flies : template.isPlane <;>
        simp [carried?, planeSlot?, mayFly, Option.filter_some, h, known, found, flies]

/-- Empty slots, unknown items and items that are known not to be aircraft can be left out of the
slots one by one. -/
theorem filterMap_carried? (s : Store) (ids : List Int64) :
    ((ids.filter (0 < ·)).filterMap (planeSlot? s)).filter (mayFly s)
      = ids.filterMap (carried? s) := by
  induction ids with
  | nil => rfl
  | cons id ids ih =>
    by_cases occupied : 0 < id
    · rw [List.filterMap_cons, carried?_of_occupied occupied,
        List.filter_cons_of_pos (by simpa using occupied), List.filterMap_cons, ← ih]
      cases planeSlot? s id with
      | none => rfl
      | some plane => cases flies : mayFly s plane <;> simp [Option.filter_some, flies]
    · rw [List.filterMap_cons, carried?_of_empty occupied,
        List.filter_cons_of_neg (by simpa using occupied), ih]

/-- The ship that a fleet has at a position, if the store knows it. -/
def shipAboard? (s : Store) (f : Formation) (position : Nat) : Option Ship :=
  (f.shipAt position).bind s.ships.get?

theorem planesAt_eq (s : Store) (f : Formation) (position : Nat) :
    planesAt s f position = (shipAboard? s f position).toList.flatMap fun ship =>
      (ship.slots ++ [ship.expansionSlot]).filterMap (carried? s) := by
  rw [planesAt, shipAboard?]
  cases (f.shipAt position).bind s.ships.get? with
  | none => rfl
  | some ship => simp [Ship.equipped, filterMap_carried?]

/-! ## Pools and tables -/

theorem carrierPool_congr (s : Store) (f : Formation) {planeFrom other : List Nat}
    (h : ∀ p, p ∈ planeFrom ↔ p ∈ other) : carrierPool s f planeFrom = carrierPool s f other := by
  have same : planeFrom.toFinset = other.toFinset := by
    ext p
    simpa using h p
  rw [carrierPool, carrierPool, distinctPositions_eq_sort, distinctPositions_eq_sort, same]

/-- The friendly planes that a table lists. -/
def TableBody.planes : TableBody → List PlaneRef
  | .grouped _ _ planes _ => planes
  | .shelling _ => []

/-- Two strikes of the same squadrons from the same positions. -/
structure AirStrike.SameLaunch (a b : AirStrike) : Prop where
  positions : ∀ p, p ∈ a.planeFrom ↔ p ∈ b.planeFrom
  squadrons : a.squadrons = b.squadrons

/-- Air phases of battles of one fleet in one area, in which the friendly strikes, if there are
any, are launched alike. -/
structure AirPhase.SameLaunch (b b' : Battle) (p p' : AirPhase) : Prop where
  fleetId : b.fleetId = b'.fleetId
  combined : b.combined = b'.combined
  areaId : b.areaId = b'.areaId
  landBased : p.stage = .landBase ↔ p'.stage = .landBase
  strikes : Option.Rel AirStrike.SameLaunch p.friendly p'.friendly

theorem airPool_congr (s : Store) (f : Formation) (areaId : Int64) {stage stage' : AirStage}
    (landBased : stage = .landBase ↔ stage' = .landBase) {a b : AirStrike} (h : a.SameLaunch b) :
    airPool s f areaId stage a = airPool s f areaId stage' b := by
  have ships : carrierPool s f a.planeFrom = carrierPool s f b.planeFrom :=
    carrierPool_congr s f h.positions
  cases stage <;> cases stage' <;> simp [airPool, ships] at landBased ⊢

theorem AirPhase.SameLaunch.airPlanes_eq {b b' : Battle} {p p' : AirPhase}
    (h : AirPhase.SameLaunch b b' p p') (s : Store) (f : Formation) :
    airPlanes s f b.areaId p = airPlanes s f b'.areaId p' := by
  have strikes := h.strikes
  rw [airPlanes, airPlanes]
  cases hp : p.friendly with
  | none =>
    cases hp' : p'.friendly with
    | none => rfl
    | some strike' =>
      rw [hp, hp'] at strikes
      cases strikes
  | some strike =>
    cases hp' : p'.friendly with
    | none =>
      rw [hp, hp'] at strikes
      cases strikes
    | some strike' =>
      rw [hp, hp'] at strikes
      obtain ⟨same⟩ := strikes
      simp only [h.areaId, airPool_congr s f b'.areaId h.landBased same, same.squadrons]

theorem planes_of_phase (s : Store) {b : Battle} {i : Nat} {p : AirPhase}
    (hp : b.phases[i]? = some (.air p)) :
    ∃ t, (attackTables s b)[i]? = some t ∧
      t.body.planes = airPlanes s (formation s.fleets b.fleetId b.combined) b.areaId p := by
  obtain ⟨t, ht, body⟩ := table_of_phase s hp
  exact ⟨t, ht, by rw [body]; rfl⟩

/-- The pool of launching ships is put together from the planes at their distinct positions in
ascending order: of a ship that the store knows those in its slots in order, the expansion slot
last. So the positions alone tell the pool, in whatever order and however often they are given,
and with it the planes that a table lists for the same squadrons. -/
theorem pool_of_positions (s : Store) :
    (∀ f planeFrom, carrierPool s f planeFrom
      = (planeFrom.toFinset.sort (· ≤ ·)).flatMap fun position =>
          (shipAboard? s f position).toList.flatMap fun ship =>
            (ship.slots ++ [ship.expansionSlot]).filterMap (carried? s)) ∧
    (∀ f planeFrom other, (∀ p, p ∈ planeFrom ↔ p ∈ other) →
      carrierPool s f planeFrom = carrierPool s f other) ∧
    ∀ (b b' : Battle) (i j : Nat) (p p' : AirPhase),
      b.phases[i]? = some (.air p) → b'.phases[j]? = some (.air p') →
      AirPhase.SameLaunch b b' p p' →
      ∃ t t', (attackTables s b)[i]? = some t ∧ (attackTables s b')[j]? = some t' ∧
        t.body.planes = t'.body.planes := by
  refine ⟨fun f planeFrom => ?_, fun f planeFrom other h => carrierPool_congr s f h, ?_⟩
  · rw [carrierPool, distinctPositions_eq_sort]
    exact List.flatMap_congr fun position _ => planesAt_eq s f position
  · intro b b' i j p p' hp hp' same
    obtain ⟨t, ht, planes⟩ := planes_of_phase s hp
    obtain ⟨t', ht', planes'⟩ := planes_of_phase s hp'
    refine ⟨t, t', ht, ht', ?_⟩
    rw [planes, planes', same.fleetId, same.combined, same.airPlanes_eq]

/-- The strike of the ships in the raid, with the positions in another order and one of them given
twice. -/
def shuffled : Battle :=
  { raid with
    day := some
      { phases := [
          .air
            { stage := .carrierBase
              friendly := some { shipStrike with planeFrom := [2, 0, 2] } }] } }

theorem pool_of_positions_shuffled :
    let f := formation tenders.fleets raid.fleetId raid.combined
    (∀ p, p ∈ [0, 2] ↔ p ∈ [2, 0, 2]) ∧
      carrierPool tenders f [2, 0, 2] = [⟨10, 20⟩, ⟨11, 23⟩, ⟨12, 20⟩] ∧
      ∃ t t', (attackTables tenders raid)[1]? = some t ∧
        (attackTables tenders shuffled)[0]? = some t' ∧ t.body.planes = t'.body.planes := by
  intro f
  obtain ⟨_, pools, tables⟩ := pool_of_positions tenders
  have same (p : Nat) : p ∈ [0, 2] ↔ p ∈ [2, 0, 2] := by
    simp only [List.mem_cons, List.not_mem_nil, or_false]
    omega
  have pool : carrierPool tenders f [0, 2] = [⟨10, 20⟩, ⟨11, 23⟩, ⟨12, 20⟩] := by decide +kernel
  have launch : AirPhase.SameLaunch raid shuffled
      { friendly := some shipStrike }
      { stage := .carrierBase, friendly := some { shipStrike with planeFrom := [2, 0, 2] } } :=
    ⟨rfl, rfl, rfl, by simp, .some ⟨same, rfl⟩⟩
  exact ⟨same, (pools f [0, 2] [2, 0, 2] same).symm.trans pool,
    tables raid shuffled 1 0 _ _ rfl rfl launch⟩

end Flotilla.Battle
