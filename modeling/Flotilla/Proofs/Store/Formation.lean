import Flotilla.Proofs.Store.Lookup

/-! # Formations and rosters

A formation has the positions of its roster up to the last usable one, in order and without a gap:
an empty position keeps its place. So the ship at a position is the one that the roster has there,
and the escort is what stands behind the first six positions. -/
namespace Flotilla.Store

/-- The ids of the roster of a fleet; an unknown fleet has none. -/
def rosterOf (fleets : Table Fleet) (fleetId : Int64) : List Int64 :=
  ((fleets.get? fleetId).map (·.shipIds)).getD []

/-- The ship at a position of a roster of which so many positions are usable. -/
def stationed (roster : List Int64) (limit position : Nat) : Option Int64 :=
  if position < limit then roster[position]?.filter (0 < ·) else none

theorem rosterOf_of_get? {fleets : Table Fleet} {fleetId : Int64} {f : Fleet}
    (h : fleets.get? fleetId = some f) : rosterOf fleets fleetId = f.shipIds := by
  simp [rosterOf, h]

/-- Twelve positions are usable of the first fleet in a mode that combines it, six of any other. -/
theorem usable_eq (mode : CombinedMode) (fleetId : Int64) :
    usable mode fleetId = if fleetId = 1 ∧ mode.isCombined then 12 else 6 := by
  simp [usable, combinedIn, combinedFleetId, combinedSize, fleetSize, and_comm]

/-! ## Berths -/

@[simp] theorem length_berthsOf (ids : List Int64) : (berthsOf ids).length = ids.length := by
  simp [berthsOf]

@[simp] theorem getElem?_berthsOf (ids : List Int64) (p : Nat) :
    (berthsOf ids)[p]? = ids[p]?.map fun id => ⟨p, occupant id⟩ := by
  simp [berthsOf, Function.comp_def]

@[simp] theorem positions_berthsOf (ids : List Int64) :
    (berthsOf ids).map (·.position) = List.range ids.length := by
  rw [berthsOf, List.map_map, List.range_eq_range']
  exact List.zipIdx_map_snd 0 ids

theorem find?_berthsOf (ids : List Int64) (p : Nat) :
    ((berthsOf ids).find? fun b => b.position == p) = (berthsOf ids)[p]? := by
  cases there : (berthsOf ids)[p]? with
  | none =>
    have short : ids.length ≤ p := length_berthsOf ids ▸ List.getElem?_eq_none_iff.mp there
    refine List.find?_eq_none.mpr fun b hb => ?_
    have inside := List.mem_map_of_mem (f := (·.position)) hb
    rw [positions_berthsOf, List.mem_range] at inside
    simp
    omega
  | some b =>
    have own : b.position = p := by
      rw [getElem?_berthsOf] at there
      obtain ⟨id, -, rfl⟩ := Option.map_eq_some_iff.mp there
      rfl
    have distinct : ((berthsOf ids).map (·.position)).Nodup :=
      positions_berthsOf ids ▸ List.nodup_range
    have found := find?_of_mem distinct (List.mem_of_getElem? there)
    rwa [own] at found

/-! ## Formations -/

section

variable (fleets : Table Fleet) (fleetId : Int64) (mode : CombinedMode)

/-- A formation is made of the usable positions of its roster. -/
theorem formation_eq :
    formation fleets fleetId mode =
      let berths := berthsOf ((rosterOf fleets fleetId).take (usable mode fleetId))
      ⟨fleetId, combinedIn mode fleetId, berths.take fleetSize, berths.drop fleetSize⟩ := by
  unfold formation rosterOf
  cases fleets.get? fleetId with
  | none => simp [berthsOf]
  | some f => rfl

@[simp] theorem berths_formation :
    (formation fleets fleetId mode).berths
      = berthsOf ((rosterOf fleets fleetId).take (usable mode fleetId)) := by
  rw [formation_eq]
  exact List.take_append_drop fleetSize _

theorem size_formation :
    (formation fleets fleetId mode).size
      = min (rosterOf fleets fleetId).length (usable mode fleetId) := by
  have size : (formation fleets fleetId mode).size
      = (formation fleets fleetId mode).berths.length := List.length_append.symm
  simp [size, Nat.min_comm]

theorem positions_formation :
    (formation fleets fleetId mode).berths.map (·.position)
      = List.range (min (rosterOf fleets fleetId).length (usable mode fleetId)) := by
  simp [Nat.min_comm]

theorem shipAt_formation (p : Nat) :
    (formation fleets fleetId mode).shipAt p
      = stationed (rosterOf fleets fleetId) (usable mode fleetId) p := by
  have occupied (id? : Option Int64) : id?.bind occupant = id?.filter (0 < ·) := by
    cases id? <;> simp [occupant, Option.filter]
  rw [Formation.shipAt, berths_formation, find?_berthsOf, getElem?_berthsOf, List.getElem?_take,
    stationed, Option.bind_map, ← occupied]
  split <;> rfl

/-- Who stands at the positions of a formation. -/
theorem shipId_of_mem_berths {b : Berth} (h : b ∈ (formation fleets fleetId mode).berths) :
    b.shipId = stationed (rosterOf fleets fleetId) (usable mode fleetId) b.position := by
  have distinct : ((formation fleets fleetId mode).berths.map (·.position)).Nodup :=
    positions_formation fleets fleetId mode ▸ List.nodup_range
  rw [← shipAt_formation, Formation.shipAt, find?_of_mem distinct h]
  rfl

/-- The escort stands at the usable positions behind the first six. -/
theorem positions_escort :
    (formation fleets fleetId mode).escort.map (·.position)
      = List.range' 6 (min (rosterOf fleets fleetId).length (usable mode fleetId) - 6) := by
  rw [formation_eq, List.map_drop, positions_berthsOf, List.length_take, Nat.min_comm,
    List.range_eq_range', List.drop_range', Nat.zero_add]
  rfl

theorem escort_of_alone (alone : ¬ (fleetId = 1 ∧ mode.isCombined)) :
    (formation fleets fleetId mode).escort = [] := by
  have none_ := positions_escort fleets fleetId mode
  rw [usable_eq, if_neg alone, Nat.sub_eq_zero_of_le (Nat.min_le_right _ 6)] at none_
  exact List.map_eq_nil_iff.mp none_

end

end Flotilla.Store
