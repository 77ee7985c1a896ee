import Flotilla.Proofs.Battle.Accounts
import Flotilla.Proofs.Battle.Matching
import Flotilla.Proofs.Store.Join
import Mathlib.Data.List.Count

/-! # Where listed planes come from

The table of an air phase lists planes under their ids, and the ids are joined with the store
once more. What holds of every plane of the pool holds of those that squadrons take out of it,
and since each is an item that the store knows, the second join finds what the first one found. -/
namespace Flotilla.Battle

open Flotilla.Store

/-! ## Planes of a pool -/

/-- The plane is an item that the store knows, under the template that the store has for it. -/
def PlaneSlot.KnownIn (s : Store) (p : PlaneSlot) : Prop :=
  ∃ item, s.equipment.get? p.equipmentId = some item ∧ p.templateId = item.templateId

/-- The item is in a squadron of an air base of the area. -/
def Stationed (s : Store) (area id : Int64) : Prop :=
  ∃ base ∈ s.airBases, base.areaId = area ∧ ∃ q ∈ base.squadrons, q.equipmentId = id

/-- The item is in a slot of a ship that the fleet has at one of the positions. -/
def Aboard (s : Store) (f : Formation) (positions : List Nat) (id : Int64) : Prop :=
  ∃ position ∈ positions, ∃ shipId ship, f.shipAt position = some shipId ∧
    s.ships.get? shipId = some ship ∧ (id ∈ ship.slots ∨ id = ship.expansionSlot)

theorem planeSlot?_eq_some {s : Store} {id : Int64} {p : PlaneSlot}
    (h : planeSlot? s id = some p) : p.equipmentId = id ∧ p.KnownIn s := by
  obtain ⟨item, known, rfl⟩ := Option.map_eq_some_iff.mp h
  exact ⟨rfl, item, known, rfl⟩

theorem mem_landBasePool {s : Store} {area : Int64} {p : PlaneSlot}
    (h : p ∈ landBasePool s area) : p.KnownIn s ∧ Stationed s area p.equipmentId := by
  obtain ⟨q, hq, slot⟩ := List.mem_filterMap.mp h
  obtain ⟨base, hbase, hsquadron⟩ := List.mem_flatMap.mp (List.mem_filter.mp hq).1
  obtain ⟨there, same⟩ := List.mem_filter.mp hbase
  obtain ⟨id, known⟩ := planeSlot?_eq_some slot
  exact ⟨known, base, there, eq_of_beq same, q, hsquadron, id.symm⟩

@[simp] theorem mem_distinctPositions {n : Nat} {positions : List Nat} :
    n ∈ distinctPositions positions ↔ n ∈ positions := by
  have found (ps : List Nat) : n ∈ ps ↔ (ps.find? fun p => p == n).isSome := by simp
  induction positions with
  | nil => rfl
  | cons m ms ih =>
    show n ∈ place (fun p => p) m (distinctPositions ms) ↔ _
    rw [found, find?_place, List.mem_cons]
    by_cases same : m = n
    · simp [same]
    · simpa [same, Ne.symm same] using ih

theorem mem_equipped {ship : Ship} {id : Int64} (h : id ∈ ship.equipped) :
    id ∈ ship.slots ∨ id = ship.expansionSlot :=
  (List.mem_append.mp (List.mem_filter.mp h).1).imp_right List.mem_singleton.mp

theorem mem_carrierPool {s : Store} {f : Formation} {planeFrom : List Nat} {p : PlaneSlot}
    (h : p ∈ carrierPool s f planeFrom) :
    p.KnownIn s ∧ Aboard s f planeFrom p.equipmentId ∧ mayFly s p := by
  obtain ⟨position, hposition, hp⟩ := List.mem_flatMap.mp h
  rw [planesAt] at hp
  split at hp
  · cases hp
  · rename_i ship hship
    obtain ⟨shipId, at_, there⟩ := Option.bind_eq_some_iff.mp hship
    obtain ⟨hslot, flies⟩ := List.mem_filter.mp hp
    obtain ⟨id, equipped, slot⟩ := List.mem_filterMap.mp hslot
    obtain ⟨rfl, known⟩ := planeSlot?_eq_some slot
    exact ⟨known, ⟨position, mem_distinctPositions.mp hposition, shipId, ship, at_, there,
      mem_equipped equipped⟩, flies⟩

theorem knownIn_of_mem_airPool {s : Store} {f : Formation} {area : Int64} {stage : AirStage}
    {strike : AirStrike} {p : PlaneSlot} (h : p ∈ airPool s f area stage strike) :
    p.KnownIn s := by
  cases stage with
  | landBase => exact (mem_landBasePool h).1
  | opening | carrierBase => exact (mem_carrierPool h).1

/-! ## Planes of a table -/

/-- The second join of a plane of the pool has the plane's own template. -/
theorem planeRefs_eq {s : Store} {pool : List PlaneSlot} (known : ∀ p ∈ pool, p.KnownIn s)
    (squadrons : List Int64) :
    planeRefs s pool squadrons = (planesTaken squadrons pool).map fun p =>
      ⟨p.equipmentId, some p.templateId, templateName s p.templateId⟩ := by
  rw [planeRefs, joinEquipmentList, resolvePlanes_eq, List.map_map, List.map_map]
  refine List.map_congr_left fun p hp => ?_
  obtain ⟨item, there, same⟩ := known p (mem_planesTaken hp).1
  simp only [Function.comp_apply, EquipmentJoin.displayName, equipmentId_joinEquipment,
    item_joinEquipment, template_joinEquipment there, Lookup.found?_ofOption, there, same]
  rfl

/-- How a plane comes to be listed for a strike: it is an item of the store, one of the strike's
squadrons is of its template, and it was where the strike came from. -/
structure PlaneRef.Flew (s : Store) (f : Formation) (area : Int64) (stage : AirStage)
    (strike : AirStrike) (r : PlaneRef) (item : Equipment) : Prop where
  known : s.equipment.get? r.equipmentId = some item
  template : r.templateId = some item.templateId
  squadron : 0 < item.templateId ∧ item.templateId ∈ strike.squadrons
  name : r.name = ((s.equipmentTemplates.get? item.templateId).map (·.name)).getD "Unknown"
  stationed : stage = .landBase → Stationed s area r.equipmentId
  aboard : stage ≠ .landBase → Aboard s f strike.planeFrom r.equipmentId
  aircraft : stage ≠ .landBase → ∀ template,
    s.equipmentTemplates.get? item.templateId = some template → template.isPlane = true

theorem flew_of_mem {s : Store} {f : Formation} {area : Int64} {stage : AirStage}
    {strike : AirStrike} {r : PlaneRef}
    (h : r ∈ planeRefs s (airPool s f area stage strike) strike.squadrons) :
    ∃ item, r.Flew s f area stage strike item := by
  rw [planeRefs_eq fun p => knownIn_of_mem_airPool] at h
  obtain ⟨p, hp, rfl⟩ := List.mem_map.mp h
  obtain ⟨hpool, pos, asked⟩ := mem_planesTaken hp
  obtain ⟨item, there, same⟩ := knownIn_of_mem_airPool hpool
  have carried (other : stage ≠ .landBase) : p ∈ carrierPool s f strike.planeFrom := by
    cases stage with
    | landBase => exact absurd rfl other
    | opening | carrierBase => exact hpool
  refine ⟨item, ⟨there, congrArg some same, same ▸ ⟨pos, asked⟩, same ▸ rfl, ?_, ?_, ?_⟩⟩
  · rintro rfl
    exact (mem_landBasePool hpool).2
  · exact fun other => (mem_carrierPool (carried other)).2.1
  · intro other template found
    have flies := (mem_carrierPool (carried other)).2.2
    rw [mayFly, same, found] at flies
    exact flies

theorem count_planeRefs_le {s : Store} {pool : List PlaneSlot}
    (known : ∀ p ∈ pool, p.KnownIn s) (squadrons : List Int64) (template : Int64) :
    ((planeRefs s pool squadrons).map (·.templateId)).count (some template)
      ≤ squadrons.count template := by
  have templates : (planeRefs s pool squadrons).map (·.templateId)
      = (templatesServed squadrons (placeTaken squadrons pool)).map some := by
    rw [planeRefs_eq known, ← map_templateId_planesTaken, List.map_map, List.map_map]
    rfl
  rw [templates, List.count_map_of_injective _ some (Option.some_injective _)]
  exact (templatesServed_sublist squadrons _).count_le template

/-- The table of an air phase lists planes of the friendly strike alone: each is a known item of a
template that the strike has a squadron of, listed under the template's name, and stationed in the
area or aboard a launching ship. No template is listed more often than the strike has squadrons
of it. -/
theorem listed_planes_flew (s : Store) {b : Battle} {i : Nat} {p : AirPhase}
    (hp : b.phases[i]? = some (.air p)) :
    let f := formation s.fleets b.fleetId b.combined
    ∃ t byFriendly byEnemy planes contacts,
      (attackTables s b)[i]? = some t ∧ t.body = .grouped byFriendly byEnemy planes contacts ∧
      (∀ r ∈ planes, ∃ strike item, p.friendly = some strike ∧
        r.Flew s f b.areaId p.stage strike item) ∧
      ∀ strike, p.friendly = some strike → ∀ template,
        (planes.map (·.templateId)).count (some template) ≤ strike.squadrons.count template := by
  intro f
  obtain ⟨t, ht, body⟩ := table_of_phase s hp
  refine ⟨t, _, _, _, _, ht, body, ?_, ?_⟩
  · intro r hr
    rw [airPlanes] at hr
    split at hr
    · cases hr
    · rename_i strike hstrike
      obtain ⟨item, flew⟩ := flew_of_mem hr
      exact ⟨strike, item, hstrike, flew⟩
  · intro strike hstrike template
    rw [airPlanes, hstrike]
    exact count_planeRefs_le (fun p => knownIn_of_mem_airPool) strike.squadrons template

/-- Two ships with planes, one of an unknown template, and an item that is no plane; an air base
with a plane whose template is unknown. -/
def tenders : Store where
  ships := .ofList [
    { id := 1, templateId := 100, slots := [10, 11] },
    { id := 2, templateId := 100, slots := [12], expansionSlot := 13 }]
  equipment := .ofList [
    { id := 10, templateId := 20 }, { id := 11, templateId := 23 }, { id := 12, templateId := 20 },
    { id := 13, templateId := 43 }, { id := 30, templateId := 168 }]
  equipmentTemplates := .ofList [
    { id := 20, name := "Type 0 Fighter Model 21", category := [3, 5, 6, 6, 0] },
    { id := 43, name := "Emergency Repair Goddess", category := [17, 23, 23, 27, 0] }]
  fleets := .ofList [{ id := 1, shipIds := [1, -1, 2] }]
  airBases := [{ areaId := 45, baseId := 1, squadrons := [⟨1, 30, 18⟩] }]

/-- A feed with a strike of the air base and one of the ships. -/
def raidText : String :=
  "\x7b\"id\":\"1\",\"area_id\":45,\"day\":\x7b\"phases\":[" ++
    "\x7b\"kind\":\"air\",\"stage\":\"land_base\"," ++
    "\"friendly\":\x7b\"squadrons\":[168]\x7d\x7d," ++
    "\x7b\"kind\":\"air\",\"stage\":\"opening\",\"friendly\":" ++
    "\x7b\"plane_from\":[0,2],\"squadrons\":[20,43,23,20,20]\x7d\x7d]\x7d\x7d"

/-- The strike of the ships. -/
def shipStrike : AirStrike := ⟨none, [0, 2], [20, 43, 23, 20, 20], []⟩

/-- The battle that the feed gives. -/
def raid : Battle where
  id := "1"
  areaId := 45
  day := some
    { phases := [
        .air { stage := .landBase, friendly := some ⟨none, [], [168], []⟩ },
        .air { friendly := some shipStrike }] }

theorem ofText_raid : ofText raidText = .ok raid := by decide +kernel

theorem listed_planes_flew_raid :
    let f := formation tenders.fleets raid.fleetId raid.combined
    ofText raidText = .ok raid ∧
      (∃ item, PlaneRef.Flew tenders f 45 .landBase ⟨none, [], [168], []⟩
        ⟨30, some 168, "Unknown"⟩ item) ∧
      ∃ item, PlaneRef.Flew tenders f 45 .opening shipStrike
        ⟨12, some 20, "Type 0 Fighter Model 21"⟩ item := by
  intro f
  have bodies : (attackTables tenders raid).map (·.body) = [
      .grouped {} {} [⟨30, some 168, "Unknown"⟩] [],
      .grouped {} {} [⟨10, some 20, "Type 0 Fighter Model 21"⟩, ⟨11, some 23, "Unknown"⟩,
        ⟨12, some 20, "Type 0 Fighter Model 21"⟩] []] := by decide +kernel
  refine ⟨ofText_raid, ?_, ?_⟩
  · obtain ⟨t, _, _, planes, _, ht, body, flew, _⟩ :=
      listed_planes_flew tenders (b := raid) (i := 0) rfl
    have listed := congrArg (·[0]?) bodies
    simp only [List.getElem?_map, ht, Option.map_some, body] at listed
    cases listed
    obtain ⟨strike, item, friendly, flown⟩ := flew _ (List.mem_singleton_self _)
    cases friendly
    exact ⟨item, flown⟩
  · obtain ⟨t, _, _, planes, _, ht, body, flew, _⟩ :=
      listed_planes_flew tenders (b := raid) (i := 1) rfl
    have listed := congrArg (·[1]?) bodies
    simp only [List.getElem?_map, ht, Option.map_some, body] at listed
    cases listed
    obtain ⟨strike, item, friendly, flown⟩ :=
      flew ⟨12, some 20, "Type 0 Fighter Model 21"⟩ (by decide)
    cases friendly
    exact ⟨item, flown⟩

end Flotilla.Battle
