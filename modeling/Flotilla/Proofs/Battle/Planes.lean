import Flotilla.Battle.Planes
import Flotilla.Proofs.Store.Keys

/-! # The planes of land bases

The pool of an area holds the planes of its bases, one base after the other. Since a store has
its bases in order of area and base and their squadrons in order of slot, so has the pool. -/
namespace Flotilla.Battle

open Flotilla.Store

/-! ## Base by base -/

/-- The squadrons of a base that can fly: those with an item that the store knows. -/
def manned (s : Store) (b : AirBase) : List Squadron :=
  b.squadrons.filter fun q => 0 < q.equipmentId && s.equipment.contains q.equipmentId

/-- The planes of a base. -/
def planesOf (s : Store) (b : AirBase) : List PlaneSlot :=
  (manned s b).filterMap fun q => planeSlot? s q.equipmentId

theorem planeSlot?_isSome (s : Store) (id : Int64) :
    (planeSlot? s id).isSome = s.equipment.contains id :=
  Option.isSome_map

theorem filterMap_planeSlot? (s : Store) (b : AirBase) :
    (b.squadrons.filter fun q => decide (0 < q.equipmentId)).filterMap
        (fun q => planeSlot? s q.equipmentId) = planesOf s b := by
  rw [planesOf, manned, List.filterMap_filter, List.filterMap_filter]
  refine List.filterMap_congr fun q _ => ?_
  have known := planeSlot?_isSome s q.equipmentId
  cases hplane : planeSlot? s q.equipmentId with
  | some plane => simp [← known, hplane]
  | none => simp

/-- The pool of an area is made of the planes of its bases. -/
theorem landBasePool_eq (s : Store) (area : Int64) :
    landBasePool s area = (s.airBasesIn area).flatMap (planesOf s) := by
  rw [landBasePool, List.filter_flatMap, List.filterMap_flatMap]
  exact congrArg (List.flatMap · _) (funext (filterMap_planeSlot? s))

theorem map_some_planesOf (s : Store) (b : AirBase) :
    (planesOf s b).map some = (manned s b).map fun q => planeSlot? s q.equipmentId := by
  -- the item of a squadron that can fly is known, so none is passed over
  have found : ∀ q ∈ manned s b, (planeSlot? s q.equipmentId).map some
      = some (planeSlot? s q.equipmentId) := by
    intro q hq
    have known := (Bool.and_eq_true_iff.mp (List.mem_filter.mp hq).2).2
    rw [← planeSlot?_isSome] at known
    obtain ⟨plane, hplane⟩ := Option.isSome_iff_exists.mp known
    rw [hplane]
    rfl
  rw [planesOf, List.map_filterMap, List.filterMap_congr found]
  exact congrFun (List.filterMap_eq_map (f := fun q : Squadron => planeSlot? s q.equipmentId)) _

/-! ## In order -/

theorem ascending_airBasesIn {s : Store} (h : s.Arranged) (area : Int64) :
    (s.airBasesIn area).Pairwise fun a b => a.baseId ≤ b.baseId := by
  refine (h.sorted.filter _).imp_of_mem fun {a b} ha hb le => ?_
  have areaA : a.areaId = area := by simpa using (List.mem_filter.mp ha).2
  have areaB : b.areaId = area := by simpa using (List.mem_filter.mp hb).2
  rw [AirBase.le_iff, areaA, areaB] at le
  rw [Int64.le_iff_toInt_le]
  omega

/-- When no base of an area is repeated, each of its bases stands behind those with lesser ids. -/
theorem ascending_of_not_repeats {s : Store} (h : s.Arranged) {area : Int64}
    (once : ∀ base, ¬ s.Repeats area base) :
    (s.airBasesIn area).Pairwise fun a b => a.baseId < b.baseId := by
  have distinct : ((s.airBasesIn area).map (·.baseId)).Nodup := by
    refine List.nodup_iff_count_le_one.mpr fun base => ?_
    rw [List.count, List.countP_map, List.countP_eq_length_filter]
    have single := Nat.not_lt.mp (once base)
    rwa [basesAt_eq_filter] at single
  have apart : (s.airBasesIn area).Pairwise fun a b => a.baseId ≠ b.baseId :=
    List.pairwise_map.mp distinct
  exact (ascending_airBasesIn h area).imp₂ (fun a b le ne => Int64.lt_of_le_of_ne le ne) apart

theorem ascending_manned {b : AirBase} (h : Sorted Squadron.le b.squadrons) (s : Store) :
    (manned s b).Pairwise fun p q => p.slotId ≤ q.slotId :=
  (h.filter _).imp fun le => of_decide_eq_true le

/-- A store in which bases stand in order of area and base, and squadrons in order of slot. -/
structure Orderly (s : Store) : Prop where
  airBases : Sorted AirBase.le s.airBases
  squadrons : ∀ b ∈ s.airBases, Sorted Squadron.le b.squadrons

/-- The pool of an area lists its squadrons that can fly, by base and within a base by slot. A
base that a snapshot has repeated counts as one base for each time. -/
structure PoolInOrder (s : Store) (area : Int64) : Prop where
  listed : (landBasePool s area).map some
    = (s.airBasesIn area).flatMap fun b => (manned s b).map fun q => planeSlot? s q.equipmentId
  bases : (s.airBasesIn area).Pairwise fun a b => a.baseId ≤ b.baseId
  slots : ∀ b ∈ s.airBasesIn area, (manned s b).Pairwise fun p q => p.slotId ≤ q.slotId

theorem orderly {s : Store} (arranged : s.Arranged) : Orderly s where
  airBases := arranged.sorted
  squadrons _ := arranged.squadrons

theorem poolInOrder {s : Store} (arranged : s.Arranged) (area : Int64) : PoolInOrder s area where
  listed := by
    rw [landBasePool_eq, List.map_flatMap]
    exact congrArg (List.flatMap · _) (funext (map_some_planesOf s))
  bases := ascending_airBasesIn arranged area
  slots b hb := ascending_manned (arranged.squadrons (List.mem_filter.mp hb).1) s

/-- Whatever updates are applied to an empty store or that of a snapshot, each cell holds what
they put in place there one after the other, and that belongs there: a record keeps the id under
which it stands, whatever a patch says. Bases and squadrons are in order, and so is the pool of
every area. Where the snapshot does not repeat a base, no two bases of the area have one id. -/
theorem orderly_applyAll {start : Store} (h : start.Fresh) (us : List Update) :
    let s := (start.applyAll us).1
    Orderly s ∧
      (∀ c : Cell,
        let held := us.foldl (fun x u => (u.effect c).run x) (start.content c)
        s.content c = held ∧ c.Owns held) ∧
      ∀ area, PoolInOrder s area ∧
        ((∀ base, ¬ start.Repeats area base) →
          (s.airBasesIn area).Pairwise fun a b => a.baseId < b.baseId) := by
  intro s
  have arranged : s.Arranged := h.arranged.applyAll us
  refine ⟨orderly arranged, fun c => ⟨start.content_applyAll us c, (h.owns c).runAll us⟩,
    fun area => ⟨poolInOrder arranged area, fun once => ?_⟩⟩
  exact ascending_of_not_repeats arranged fun base twice =>
    once base ((repeats_applyAll start us area base).mp twice)

/-- A fleet is patched with another id, and squadrons come out of order. -/
def rearrangement : List Update :=
  [.fleets [{ id := 1 }], .fleetPatch 1 [("id", .int 5), ("name", .string "Main")],
   .equipment [{ id := 7, templateId := 168 }, { id := 8, templateId := 168 }],
   .airBases [{ areaId := 1, baseId := 2, squadrons := [⟨1, 7, 18⟩] },
     { areaId := 1, baseId := 1, squadrons := [⟨2, 7, 18⟩, ⟨3, 9, 18⟩, ⟨1, 8, 18⟩] }]]

theorem orderly_rearrangement :
    let s := (bases.applyAll rearrangement).1
    bases.Fresh ∧ (Orderly s ∧ ∀ area, PoolInOrder s area) ∧
      s.fleets.rows = [{ id := 1, name := "Main" }] ∧
      (landBasePool s 1).map (·.equipmentId) = [8, 7, 7] := by
  have fresh : bases.Fresh := .inr ⟨basesText, ofText_bases⟩
  obtain ⟨orderly, _, pools⟩ := orderly_applyAll fresh rearrangement
  exact ⟨fresh, ⟨orderly, fun area => (pools area).1⟩, by decide +kernel, by decide +kernel⟩

end Flotilla.Battle
