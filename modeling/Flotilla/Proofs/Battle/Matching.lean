import Flotilla.Battle.Planes
import Mathlib.Data.List.Nodup
import Mathlib.Data.List.Perm.Subperm

/-! # Squadrons matched with planes

A squadron names a template, and a plane of the pool serves one squadron at most. Squadrons of
different templates do not compete, so taking the first plane of a template that is left serves
as many squadrons as can be served: of each template the first ones, with the first planes. -/
namespace Flotilla.Battle

/-! ## Template by template -/

/-- The planes of a template in a pool. -/
def ofTemplate (t : Int64) (pool : List PlaneSlot) : List PlaneSlot :=
  pool.filter (·.templateId == t)

theorem ofTemplate_of_takePlane_none {t : Int64} {pool : List PlaneSlot}
    (h : takePlane t pool = none) : ofTemplate t pool = [] := by
  induction pool with
  | nil => rfl
  | cons q qs ih =>
    rw [takePlane] at h
    split at h
    · cases h
    · rename_i other
      rw [ofTemplate, List.filter_cons_of_neg (by simpa using other)]
      exact ih (Option.map_eq_none_iff.mp h)

/-- A plane that is taken is the first of its template, and the other templates keep theirs. -/
theorem ofTemplate_of_takePlane {t : Int64} {pool rest : List PlaneSlot} {p : PlaneSlot}
    (h : takePlane t pool = some (p, rest)) (u : Int64) :
    ofTemplate u pool = if t = u then p :: ofTemplate u rest else ofTemplate u rest := by
  induction pool generalizing rest with
  | nil => cases h
  | cons q qs ih =>
    rw [takePlane] at h
    split at h
    · rename_i same
      obtain ⟨rfl, rfl⟩ := Prod.mk.inj (Option.some.inj h)
      subst same
      simp [ofTemplate, List.filter_cons]
    · rename_i other
      obtain ⟨⟨p', rest'⟩, found, heq⟩ := Option.map_eq_some_iff.mp h
      obtain ⟨rfl, rfl⟩ := Prod.mk.inj heq
      have below := ih found
      by_cases hu : t = u
      · subst hu
        simpa [ofTemplate, List.filter_cons, other] using below
      · simp only [ofTemplate, if_neg hu] at below ⊢
        rw [List.filter_cons, List.filter_cons, below]

/-! ## The plane a squadron takes -/

/-- The plane that a squadron takes: of its template the one behind as many as there are
squadrons of that template before it. -/
def planeTaken (squadrons : List Int64) (pool : List PlaneSlot) (i : Nat) : Option PlaneSlot :=
  squadrons[i]?.bind fun t =>
    if 0 < t then (ofTemplate t pool)[squadrons.countBefore t i]? else none

/-- The planes that squadrons take, in the order of the squadrons. -/
def planesTaken (squadrons : List Int64) (pool : List PlaneSlot) : List PlaneSlot :=
  (List.range squadrons.length).filterMap (planeTaken squadrons pool)

/-- The squadrons behind the first one take what they would take by themselves of the planes
that it leaves. -/
theorem planesTaken_cons {t : Int64} {rest : List Int64} {pool left : List PlaneSlot}
    (h : ∀ u, 0 < u → ∀ k,
      (ofTemplate u pool)[k + if t = u then 1 else 0]? = (ofTemplate u left)[k]?) :
    planesTaken (t :: rest) pool
      = (if 0 < t then (ofTemplate t pool)[0]? else none).toList ++ planesTaken rest left := by
  have first : planeTaken (t :: rest) pool 0
      = if 0 < t then (ofTemplate t pool)[0]? else none := by
    simp [planeTaken, List.countBefore]
  have behind : planeTaken (t :: rest) pool ∘ Nat.succ = planeTaken rest left := by
    funext i
    refine congrArg (rest[i]?.bind) (funext fun u => ?_)
    split
    · rename_i pos
      simp only [List.countBefore_cons_succ, beq_iff_eq, h u pos]
    · rfl
  rw [planesTaken, List.length_cons, List.range_succ_eq_map, List.filterMap_cons,
    List.filterMap_map, behind, first]
  cases (if 0 < t then (ofTemplate t pool)[0]? else none) <;> rfl

theorem planesTaken_cons_of_taken {t : Int64} {rest : List Int64} {pool left : List PlaneSlot}
    {plane : PlaneSlot} (pos : 0 < t) (taken : takePlane t pool = some (plane, left)) :
    planesTaken (t :: rest) pool = plane :: planesTaken rest left := by
  have planes := ofTemplate_of_takePlane taken
  have behind : ∀ u, 0 < u → ∀ k,
      (ofTemplate u pool)[k + if t = u then 1 else 0]? = (ofTemplate u left)[k]? := by
    intro u _ k
    rw [planes u]
    split <;> simp
  rw [planesTaken_cons behind, if_pos pos, planes t, if_pos rfl]
  rfl

/-- A squadron for which there is no plane leaves all planes to the others. -/
theorem planesTaken_cons_of_none {t : Int64} {rest : List Int64} {pool : List PlaneSlot}
    (h : 0 < t → ofTemplate t pool = []) :
    planesTaken (t :: rest) pool = planesTaken rest pool := by
  have behind : ∀ u, 0 < u → ∀ k,
      (ofTemplate u pool)[k + if t = u then 1 else 0]? = (ofTemplate u pool)[k]? := by
    intro u pos k
    split
    · rename_i same
      subst same
      rw [h pos]
      rfl
    · rfl
  rw [planesTaken_cons behind]
  split
  · rename_i pos
    rw [h pos]
    rfl
  · rfl

/-- What a squadron finds in the pool that the others have left is told by the whole pool and the
squadrons of its own template. -/
theorem resolvePlanes_eq (squadrons : List Int64) (pool : List PlaneSlot) :
    resolvePlanes squadrons pool = (planesTaken squadrons pool).map (·.equipmentId) := by
  induction squadrons generalizing pool with
  | nil => rfl
  | cons t rest ih =>
    rw [resolvePlanes]
    split
    · rename_i pos
      split
      · rename_i plane left taken
        rw [planesTaken_cons_of_taken pos taken, ih]
        rfl
      · rename_i missing
        rw [planesTaken_cons_of_none fun _ => ofTemplate_of_takePlane_none missing, ih]
    · rename_i neg
      -- no squadron: its template may have planes, which stay where they are
      rw [planesTaken_cons_of_none fun pos => absurd pos neg, ih]

/-! ## Places in the pool -/

/-- The places of the planes of a template in a pool. -/
def placesOf (t : Int64) (pool : List PlaneSlot) : List Nat :=
  (pool.map (·.templateId)).idxsOf t

/-- The place in the pool of the plane that a squadron takes. -/
def placeTaken (squadrons : List Int64) (pool : List PlaneSlot) (i : Nat) : Option Nat :=
  squadrons[i]?.bind fun t =>
    if 0 < t then (placesOf t pool)[squadrons.countBefore t i]? else none

theorem mem_idxsOf {xs : List Int64} {t : Int64} {i : Nat} :
    i ∈ xs.idxsOf t ↔ xs[i]? = some t := by
  rw [List.mem_idxsOf_iff_exists_getElem_pos, List.getElem?_eq_some_iff]
  simp

theorem mem_placesOf {t : Int64} {pool : List PlaneSlot} {j : Nat} :
    j ∈ placesOf t pool ↔ ∃ plane, pool[j]? = some plane ∧ plane.templateId = t := by
  rw [placesOf, mem_idxsOf, List.getElem?_map, Option.map_eq_some_iff]

theorem getElem?_ofTemplate (t : Int64) (pool : List PlaneSlot) (k : Nat) :
    (ofTemplate t pool)[k]? = (placesOf t pool)[k]?.bind (pool[·]?) := by
  have lengths : (pool.findIdxs (·.templateId == t)).length
      = (pool.filter (·.templateId == t)).length := by
    rw [List.length_findIdxs, List.countP_eq_length_filter]
  rw [ofTemplate, placesOf, List.idxsOf_map]
  by_cases h : k < (pool.filter (·.templateId == t)).length
  · rw [List.getElem?_eq_getElem h, List.getElem?_eq_getElem (lengths ▸ h),
      List.getElem_filter_eq_getElem_getElem_findIdxs h, Option.bind_some,
      List.getElem?_eq_getElem]
  · have beyond := Nat.not_lt.mp h
    rw [List.getElem?_eq_none beyond, List.getElem?_eq_none (lengths ▸ beyond)]
    rfl

theorem planeTaken_eq (squadrons : List Int64) (pool : List PlaneSlot) (i : Nat) :
    planeTaken squadrons pool i = (placeTaken squadrons pool i).bind (pool[·]?) := by
  rw [planeTaken, placeTaken, Option.bind_assoc]
  refine congrArg _ (funext fun t => ?_)
  split
  · exact getElem?_ofTemplate t pool _
  · rfl

/-- A place that a squadron takes has a plane of its template, and among the places of that
template it is behind as many as there are such squadrons before it. -/
theorem plane_of_placeTaken {squadrons : List Int64} {pool : List PlaneSlot} {i j : Nat}
    (h : placeTaken squadrons pool i = some j) :
    ∃ plane, pool[j]? = some plane ∧ 0 < plane.templateId ∧
      squadrons[i]? = some plane.templateId ∧
      (placesOf plane.templateId pool)[squadrons.countBefore plane.templateId i]? = some j := by
  obtain ⟨t, asked, found⟩ := Option.bind_eq_some_iff.mp h
  split at found
  · rename_i pos
    obtain ⟨plane, there, rfl⟩ := mem_placesOf.mp (List.mem_of_getElem? found)
    exact ⟨plane, there, pos, asked, found⟩
  · cases found

theorem countBefore_of_getElem?_idxsOf {xs : List Int64} {t : Int64} {k i : Nat}
    (h : (xs.idxsOf t)[k]? = some i) : xs.countBefore t i = k := by
  obtain ⟨hk, rfl⟩ := List.getElem?_eq_some_iff.mp h
  rw [List.getElem_idxOf_eq_idxOfNth, List.countBefore_idxOfNth_of_lt_count]
  rwa [List.length_idxsOf] at hk

theorem idxOfNth_countBefore {xs : List Int64} {t : Int64} {i : Nat}
    (h : xs[i]? = some t) : xs.idxOfNth t (xs.countBefore t i) = i := by
  obtain ⟨hi, rfl⟩ := List.getElem?_eq_some_iff.mp h
  exact List.idxOfNth_countBefore_of_lt_length_of_beq (h := hi) (by simp)

/-! ## Squadrons served -/

/-- An assignment of places in a pool to squadrons, in which a squadron gets a plane of its
template and no place goes to two squadrons. -/
structure Matching (squadrons : List Int64) (pool : List PlaneSlot)
    (place : Nat → Option Nat) : Prop where
  template : ∀ i j, place i = some j →
    ∃ plane, pool[j]? = some plane ∧ squadrons[i]? = some plane.templateId
  once : ∀ i i' j, place i = some j → place i' = some j → i = i'

/-- The squadrons of a template that get a place, in order. -/
def served (squadrons : List Int64) (place : Nat → Option Nat) (t : Int64) : List Nat :=
  (squadrons.idxsOf t).filter fun i => (place i).isSome

/-- The templates of the squadrons that get a place, in order. -/
def templatesServed (squadrons : List Int64) (place : Nat → Option Nat) : List Int64 :=
  (List.range squadrons.length).filterMap fun i => (place i).bind fun _ => squadrons[i]?

theorem matching_placeTaken (squadrons : List Int64) (pool : List PlaneSlot) :
    Matching squadrons pool (placeTaken squadrons pool) where
  template i j h := by
    obtain ⟨plane, there, _, asked, _⟩ := plane_of_placeTaken h
    exact ⟨plane, there, asked⟩
  once i i' j h h' := by
    -- the plane at the place has one template, which both squadrons ask for
    obtain ⟨plane, there, _, asked, found⟩ := plane_of_placeTaken h
    obtain ⟨plane', there', _, asked', found'⟩ := plane_of_placeTaken h'
    obtain rfl := Option.some.inj (there.symm.trans there')
    have before : squadrons.countBefore plane.templateId i
        = squadrons.countBefore plane.templateId i' :=
      (List.getElem?_inj (List.getElem?_eq_some_iff.mp found).1 List.nodup_idxsOf).mp
        (found.trans found'.symm)
    rw [← idxOfNth_countBefore asked, before, idxOfNth_countBefore asked']

theorem length_served (squadrons : List Int64) (place : Nat → Option Nat) (t : Int64) :
    (served squadrons place t).length = (templatesServed squadrons place).count t := by
  have requests : (squadrons.idxsOf t).Perm
      ((List.range squadrons.length).filter fun i => squadrons[i]? == some t) := by
    refine (List.perm_ext_iff_of_nodup List.nodup_idxsOf (List.nodup_range.filter _)).mpr
      fun i => ?_
    rw [mem_idxsOf, List.mem_filter, List.mem_range, beq_iff_eq]
    exact ⟨fun h => ⟨(List.getElem?_eq_some_iff.mp h).1, h⟩, And.right⟩
  rw [served, ← List.countP_eq_length_filter, requests.countP_eq, List.countP_filter,
    templatesServed, List.count_filterMap]
  refine List.countP_congr fun i _ => ?_
  cases place i <;> simp

/-- Where the squadrons of a template get the places of a list as far as it goes, the first of
them are served, with the first places. -/
theorem filter_isSome_eq_take {place : Nat → Option Nat} {requests places : List Nat}
    (h : ∀ (k i : Nat), requests[k]? = some i → place i = places[k]?) :
    (requests.filter fun i => (place i).isSome) = requests.take places.length ∧
      (requests.take places.length).map place = (places.take requests.length).map some := by
  induction requests generalizing places with
  | nil => simp
  | cons i is ih =>
    have first : place i = places[0]? := h 0 i rfl
    cases places with
    | nil =>
      have others : ∀ x ∈ i :: is, ¬ (place x).isSome := by
        intro x hx
        obtain ⟨k, hk⟩ := List.mem_iff_getElem?.mp hx
        simp [h k x hk]
      exact ⟨List.filter_eq_nil_iff.mpr others, rfl⟩
    | cons j js =>
      have behind : ∀ (k x : Nat), is[k]? = some x → place x = js[k]? :=
        fun k x hx => h (k + 1) x hx
      obtain ⟨kept, given⟩ := ih behind
      constructor
      · rw [List.filter_cons_of_pos (by simp [first]), kept]
        rfl
      · simp [first, given]

variable {squadrons : List Int64} {pool : List PlaneSlot}

theorem placeTaken_of_request {t : Int64} (pos : 0 < t) {k i : Nat}
    (h : (squadrons.idxsOf t)[k]? = some i) :
    placeTaken squadrons pool i = (placesOf t pool)[k]? := by
  have asked := mem_idxsOf.mp (List.mem_of_getElem? h)
  rw [placeTaken, asked, Option.bind_some, if_pos pos, countBefore_of_getElem?_idxsOf h]

theorem length_placesOf (t : Int64) (pool : List PlaneSlot) :
    (placesOf t pool).length = pool.countP (·.templateId == t) := by
  rw [placesOf, List.length_idxsOf, List.count, List.countP_map]
  rfl

/-- The squadrons served of a template are its first ones, as many as it has planes, and they
get the first of those. -/
theorem served_placeTaken {t : Int64} (pos : 0 < t) :
    served squadrons (placeTaken squadrons pool) t
        = (squadrons.idxsOf t).take (placesOf t pool).length ∧
      (served squadrons (placeTaken squadrons pool) t).map (placeTaken squadrons pool)
        = ((placesOf t pool).take (squadrons.idxsOf t).length).map some := by
  have each : ∀ (k i : Nat), (squadrons.idxsOf t)[k]? = some i →
      placeTaken squadrons pool i = (placesOf t pool)[k]? := fun _ _ => placeTaken_of_request pos
  obtain ⟨first, given⟩ := filter_isSome_eq_take each
  rw [served, first]
  exact ⟨rfl, given⟩

theorem served_of_not_pos {t : Int64} (h : t ≤ 0) :
    served squadrons (placeTaken squadrons pool) t = [] := by
  refine List.filter_eq_nil_iff.mpr fun i hi some => ?_
  obtain ⟨j, taken⟩ := Option.isSome_iff_exists.mp some
  obtain ⟨plane, _, pos, asked, _⟩ := plane_of_placeTaken taken
  obtain rfl := Option.some.inj (asked.symm.trans (mem_idxsOf.mp hi))
  exact Int64.not_le.mpr pos h

/-- However places are assigned, no more squadrons of a template are served than there are
squadrons and than there are planes of it. -/
theorem Matching.length_served_le {place : Nat → Option Nat}
    (h : Matching squadrons pool place) (t : Int64) :
    (served squadrons place t).length
      ≤ min (squadrons.count t) (pool.countP (·.templateId == t)) := by
  refine Nat.le_min.mpr ⟨?_, ?_⟩
  · rw [← List.length_idxsOf]
    exact List.length_filter_le _ _
  · have given : ((squadrons.idxsOf t).filterMap place).Nodup :=
      List.nodup_idxsOf.filterMap h.once
    have there : (squadrons.idxsOf t).filterMap place ⊆ placesOf t pool := by
      intro j hj
      obtain ⟨i, hi, taken⟩ := List.mem_filterMap.mp hj
      obtain ⟨plane, found, asked⟩ := h.template i j taken
      exact mem_placesOf.mpr
        ⟨plane, found, Option.some.inj (asked.symm.trans (mem_idxsOf.mp hi))⟩
    rw [served, ← List.countP_eq_length_filter, ← List.length_filterMap_eq_countP,
      ← length_placesOf]
    exact (List.subperm_of_subset given there).length_le

theorem length_served_placeTaken {t : Int64} (pos : 0 < t) :
    (served squadrons (placeTaken squadrons pool) t).length
      = min (squadrons.count t) (pool.countP (·.templateId == t)) := by
  rw [(served_placeTaken pos).1, List.length_take, length_placesOf, List.length_idxsOf,
    Nat.min_comm]

/-! ## The planes together -/

theorem map_templateId_planesTaken (squadrons : List Int64) (pool : List PlaneSlot) :
    (planesTaken squadrons pool).map (·.templateId)
      = templatesServed squadrons (placeTaken squadrons pool) := by
  rw [planesTaken, List.map_filterMap, templatesServed]
  refine List.filterMap_congr fun i _ => ?_
  rw [planeTaken_eq]
  cases taken : placeTaken squadrons pool i with
  | none => rfl
  | some j =>
    obtain ⟨plane, there, asked⟩ := (matching_placeTaken squadrons pool).template i j taken
    simp [there, asked]

theorem templatesServed_sublist (squadrons : List Int64) (place : Nat → Option Nat) :
    (templatesServed squadrons place).Sublist squadrons := by
  induction squadrons generalizing place with
  | nil => exact .slnil
  | cons t rest ih =>
    have others := ih (place ∘ Nat.succ)
    rw [templatesServed, List.length_cons, List.range_succ_eq_map, List.filterMap_cons,
      List.filterMap_map]
    cases place 0 with
    | none => exact others.cons t
    | some _ => exact others.cons_cons t

theorem mem_planesTaken {p : PlaneSlot} (h : p ∈ planesTaken squadrons pool) :
    p ∈ pool ∧ 0 < p.templateId ∧ p.templateId ∈ squadrons := by
  obtain ⟨i, _, taken⟩ := List.mem_filterMap.mp h
  rw [planeTaken_eq] at taken
  obtain ⟨j, place, there⟩ := Option.bind_eq_some_iff.mp taken
  obtain ⟨p', there', pos, asked, _⟩ := plane_of_placeTaken place
  obtain rfl := Option.some.inj (there.symm.trans there')
  exact ⟨List.mem_of_getElem? there, pos, List.mem_of_getElem? asked⟩

theorem resolvePlanes_eq_filterMap (squadrons : List Int64) (pool : List PlaneSlot) :
    resolvePlanes squadrons pool = (List.range squadrons.length).filterMap fun i =>
      (placeTaken squadrons pool i).bind fun j => pool[j]?.map (·.equipmentId) := by
  rw [resolvePlanes_eq, planesTaken, List.map_filterMap]
  refine List.filterMap_congr fun i _ => ?_
  rw [planeTaken_eq, Option.map_bind]
  rfl

theorem nodup_resolvePlanes (h : (pool.map (·.equipmentId)).Nodup) :
    (resolvePlanes squadrons pool).Nodup := by
  rw [resolvePlanes_eq_filterMap]
  refine List.nodup_range.filterMap fun i i' id taken taken' => ?_
  obtain ⟨j, place, at_⟩ := Option.bind_eq_some_iff.mp taken
  obtain ⟨j', place', at_'⟩ := Option.bind_eq_some_iff.mp taken'
  rw [← List.getElem?_map] at at_ at_'
  have same : j = j' :=
    (List.getElem?_inj (List.getElem?_eq_some_iff.mp at_).1 h).mp (at_.trans at_'.symm)
  exact (matching_placeTaken squadrons pool).once i i' j place (same ▸ place')

theorem Matching.countP_templatesServed_le {place : Nat → Option Nat}
    (h : Matching squadrons pool place) :
    (templatesServed squadrons place).countP (0 < ·) ≤ (resolvePlanes squadrons pool).length := by
  have within : ((templatesServed squadrons place).filter (0 < ·)).Subperm
      (templatesServed squadrons (placeTaken squadrons pool)) := by
    refine List.subperm_ext_iff.mpr fun t ht => ?_
    have pos : 0 < t := by simpa using (List.mem_filter.mp ht).2
    rw [List.count_filter (by simpa using pos), ← length_served, ← length_served,
      length_served_placeTaken pos]
    exact h.length_served_le t
  rw [resolvePlanes_eq, List.length_map, ← List.length_map (·.templateId),
    map_templateId_planesTaken, List.countP_eq_length_filter]
  exact within.length_le

/-- Of each template the first squadrons get the first planes, as many as there are of both. A
template of zero or below is no squadron and gets none. -/
structure FirstServed (squadrons : List Int64) (pool : List PlaneSlot)
    (place : Nat → Option Nat) : Prop where
  number : ∀ t, 0 < t → (served squadrons place t).length
    = min (squadrons.count t) (pool.countP (·.templateId == t))
  requests : ∀ t, served squadrons place t <+: squadrons.idxsOf t
  planes : ∀ t, (served squadrons place t).map place <+: (placesOf t pool).map some
  nobody : ∀ t, t ≤ 0 → served squadrons place t = []

theorem firstServed_placeTaken (squadrons : List Int64) (pool : List PlaneSlot) :
    FirstServed squadrons pool (placeTaken squadrons pool) where
  number _ := length_served_placeTaken
  requests t := by
    by_cases pos : 0 < t
    · rw [(served_placeTaken pos).1]
      exact List.take_prefix _ _
    · rw [served_of_not_pos (Int64.not_lt.mp pos)]
      exact List.nil_prefix
  planes t := by
    by_cases pos : 0 < t
    · rw [(served_placeTaken pos).2]
      exact (List.take_prefix _ _).map some
    · rw [served_of_not_pos (Int64.not_lt.mp pos)]
      exact List.nil_prefix
  nobody _ := served_of_not_pos

/-- The planes of squadrons are those at the places that the squadrons take, in the order of the
squadrons: of each template the first planes for the first squadrons. No place is taken twice,
no plane is listed twice unless the pool lists it twice, and no other assignment serves more
squadrons, of one template or of all; a template of zero or below does not count as one. -/
theorem resolvePlanes_maximum (squadrons : List Int64) (pool : List PlaneSlot) :
    let place := placeTaken squadrons pool
    (resolvePlanes squadrons pool = (List.range squadrons.length).filterMap fun i =>
        (place i).bind fun j => pool[j]?.map (·.equipmentId)) ∧
      FirstServed squadrons pool place ∧ Matching squadrons pool place ∧
      ((pool.map (·.equipmentId)).Nodup → (resolvePlanes squadrons pool).Nodup) ∧
      ∀ other, Matching squadrons pool other →
        (∀ t, 0 < t → (served squadrons other t).length ≤ (served squadrons place t).length) ∧
        (templatesServed squadrons other).countP (0 < ·)
          ≤ (resolvePlanes squadrons pool).length := by
  intro place
  have first := firstServed_placeTaken squadrons pool
  refine ⟨resolvePlanes_eq_filterMap squadrons pool, first, matching_placeTaken squadrons pool,
    nodup_resolvePlanes, fun other h => ⟨fun t pos => ?_, h.countP_templatesServed_le⟩⟩
  rw [first.number t pos]
  exact h.length_served_le t

/-- Three planes of two templates. -/
def trio : List PlaneSlot := [⟨1, 5⟩, ⟨2, 7⟩, ⟨3, 5⟩]

/-- The two planes of one template, given to its squadrons the other way round. -/
def crossed : Nat → Option Nat
  | 1 => some 2
  | 3 => some 0
  | _ => none

theorem matching_crossed : Matching [7, 5, 0, 5, 8] trio crossed where
  template i j h := by
    unfold crossed at h
    split at h
    · exact ⟨⟨3, 5⟩, by cases h; rfl, rfl⟩
    · exact ⟨⟨1, 5⟩, by cases h; rfl, rfl⟩
    · cases h
  once i i' j h h' := by
    unfold crossed at h h'
    split at h <;> split at h' <;> cases h <;> cases h' <;> rfl

theorem resolvePlanes_maximum_trio :
    resolvePlanes [7, 5, 0, 5, 8] trio = [2, 1, 3] ∧
      (resolvePlanes [7, 5, 0, 5, 8] trio).Nodup ∧
      (served [7, 5, 0, 5, 8] (placeTaken [7, 5, 0, 5, 8] trio) 5).length = 2 ∧
      (templatesServed [7, 5, 0, 5, 8] crossed).countP (0 < ·) ≤ 3 := by
  have ids : resolvePlanes [7, 5, 0, 5, 8] trio = [2, 1, 3] := by decide
  obtain ⟨_, first, _, once, most⟩ := resolvePlanes_maximum [7, 5, 0, 5, 8] trio
  refine ⟨ids, once (by decide), first.number 5 (by decide), ?_⟩
  have fewer := (most crossed matching_crossed).2
  rwa [ids] at fewer

end Flotilla.Battle
