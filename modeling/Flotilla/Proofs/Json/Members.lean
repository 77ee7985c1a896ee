import Mathlib.Data.String.Basic
import Flotilla.Json.Value

/-! # Objects as maps

The members of an object that is a map stand in ascending order of their keys, each key
once. Setting members, one after the other, leaves under each key the value set last. -/
namespace Flotilla.Json

/-- Members in ascending order of their keys, each key once. -/
def IsMap (ms : Members) : Prop := ms.Pairwise fun a b => a.1 < b.1

theorem IsMap.nodup {ms : Members} (h : IsMap ms) : (ms.map (·.1)).Nodup :=
  List.pairwise_map.mpr (h.imp ne_of_lt)

theorem mem_put {key : String} {value : Json} {ms : Members} {m : String × Json}
    (h : m ∈ put key value ms) : m = (key, value) ∨ m ∈ ms := by
  induction ms with
  | nil => exact .inl (List.mem_singleton.mp h)
  | cons n ms ih =>
    obtain ⟨k, v⟩ := n
    unfold put at h
    split at h
    · exact List.mem_cons.mp h
    · split at h
      · exact (List.mem_cons.mp h).imp id (List.mem_cons_of_mem _)
      · rcases List.mem_cons.mp h with rfl | h
        · exact .inr List.mem_cons_self
        · exact (ih h).imp id (List.mem_cons_of_mem _)

theorem IsMap.put {ms : Members} (h : IsMap ms) (key : String) (value : Json) :
    IsMap (put key value ms) := by
  induction ms with
  | nil => exact List.pairwise_singleton _ _
  | cons m ms ih =>
    obtain ⟨k, v⟩ := m
    obtain ⟨first, rest⟩ := List.pairwise_cons.mp h
    unfold Json.put
    split
    · rename_i before
      refine List.pairwise_cons.mpr ⟨fun m hm => ?_, h⟩
      rcases List.mem_cons.mp hm with rfl | hm
      · exact before
      · exact lt_trans before (first m hm)
    · split
      · rename_i same
        exact List.pairwise_cons.mpr ⟨fun m hm => same ▸ first m hm, rest⟩
      · rename_i notBefore notSame
        refine List.pairwise_cons.mpr ⟨fun m hm => ?_, ih rest⟩
        rcases mem_put hm with rfl | hm
        · exact lt_of_le_of_ne (not_lt.mp notBefore) (Ne.symm notSame)
        · exact first m hm

theorem put_of_forall_lt {key : String} {ms : Members} (h : ∀ m ∈ ms, m.1 < key) (value : Json) :
    put key value ms = ms ++ [(key, value)] := by
  induction ms with
  | nil => rfl
  | cons m ms ih =>
    obtain ⟨before, rest⟩ := List.forall_mem_cons.mp h
    rw [put, if_neg (lt_asymm before), if_neg (ne_of_gt before), ih rest, List.cons_append]

/-- Members in order are the map that they describe. -/
theorem settle_of_isMap {ms : Members} (h : IsMap ms) : settle ms = ms := by
  suffices behind : ∀ front, IsMap (front ++ ms) →
      ms.foldl (fun map m => Json.put m.1 m.2 map) front = front ++ ms from behind [] h
  clear h
  induction ms with
  | nil => exact fun front _ => (List.append_nil front).symm
  | cons m ms ih =>
    intro front h
    have last : ∀ n ∈ front, n.1 < m.1 := fun n hn =>
      (List.pairwise_append.mp h).2.2 n hn m List.mem_cons_self
    rw [List.foldl_cons, put_of_forall_lt last, ih _ (by simpa using h)]
    simp

theorem lookup_member (key k : String) (value : Json) (ms : Members) :
    List.lookup k ((key, value) :: ms) = if k = key then some value else ms.lookup k := by
  rw [List.lookup_cons]
  by_cases h : k = key
  · rw [if_pos h, beq_iff_eq.mpr h]
  · rw [if_neg h, beq_eq_false_iff_ne.mpr h]

@[simp] theorem lookup_put (key k : String) (value : Json) (ms : Members) :
    (put key value ms).lookup k = if k = key then some value else ms.lookup k := by
  induction ms with
  | nil => exact lookup_member key k value []
  | cons m ms ih =>
    obtain ⟨k', v⟩ := m
    unfold put
    split
    · exact lookup_member key k value _
    · split
      · rename_i same
        by_cases h : k = k' <;> simp [lookup_member, same, h]
      · rename_i notSame
        by_cases h : k = k'
        · simp [h, Ne.symm notSame]
        · simp [lookup_member, h, ih]

theorem lookup_isSome {key : String} {ms : Members} :
    (ms.lookup key).isSome ↔ key ∈ ms.map (·.1) := by
  rw [List.lookup_isSome_iff, List.mem_map]
  exact exists_congr fun m => and_congr_right fun _ => beq_iff_eq.trans eq_comm

theorem lookup_of_not_mem {key : String} {ms : Members} (h : key ∉ ms.map (·.1)) :
    ms.lookup key = none :=
  Option.not_isSome_iff_eq_none.mp fun present => h (lookup_isSome.mp present)

/-- The value that members give a key last. -/
def given (ms : Members) (key : String) : Option Json := ms.reverse.lookup key

theorem IsMap.foldl_put {ms : Members} (h : IsMap ms) (new : Members) :
    IsMap (new.foldl (fun map m => Json.put m.1 m.2 map) ms) := by
  induction new generalizing ms with
  | nil => exact h
  | cons m new ih => exact ih (h.put m.1 m.2)

theorem given_cons (m : String × Json) (ms : Members) (key : String) :
    given (m :: ms) key = (given ms key).or (if key = m.1 then some m.2 else none) := by
  rw [given, List.reverse_cons, List.lookup_append, lookup_member]
  rfl

theorem lookup_foldl_put (ms new : Members) (key : String) :
    (new.foldl (fun map m => put m.1 m.2 map) ms).lookup key
      = (given new key).or (ms.lookup key) := by
  induction new generalizing ms with
  | nil => rfl
  | cons m new ih =>
    rw [List.foldl_cons, ih, lookup_put, given_cons, Option.or_assoc]
    split <;> rfl

@[simp] theorem lookup_settle (ms : Members) (key : String) :
    (settle ms).lookup key = given ms key := by
  rw [settle, lookup_foldl_put]
  exact Option.or_none

theorem given_of_mem {ms : Members} (distinct : (ms.map (·.1)).Nodup) {m : String × Json}
    (h : m ∈ ms) : given ms m.1 = some m.2 := by
  induction ms with
  | nil => cases h
  | cons n ms ih =>
    obtain ⟨fresh, distinct⟩ := List.nodup_cons.mp distinct
    rw [given_cons]
    rcases List.mem_cons.mp h with rfl | h
    · have absent : given ms m.1 = none := by
        refine lookup_of_not_mem fun h => fresh ?_
        rwa [List.map_reverse, List.mem_reverse] at h
      rw [absent, if_pos rfl]
      rfl
    · rw [ih distinct h]
      rfl

/-- The members of an object with others set in it. -/
def withGiven (own new : Members) : Members :=
  new.foldl (fun map m => put m.1 m.2 map) (settle own)

theorem isMap_withGiven (own new : Members) : IsMap (withGiven own new) := by
  have nothing : IsMap [] := .nil
  exact (nothing.foldl_put own).foldl_put new

@[simp] theorem lookup_withGiven (own new : Members) (key : String) :
    (withGiven own new).lookup key = (given new key).or (given own key) := by
  simp [withGiven, lookup_foldl_put]

@[simp] theorem given_withGiven (own new : Members) (key : String) :
    given (withGiven own new) key = (given new key).or (given own key) := by
  rw [← lookup_settle, settle_of_isMap (isMap_withGiven own new), lookup_withGiven]

mutual

/-- Nothing of a held value is at fault when it is skipped. -/
@[simp] theorem skip_node : (v : Json) → v.node.skip = none
  | .null | .bool _ | .number _ | .string _ => rfl
  | .list elements => by rw [node, Node.skip, skip_nodes elements]; rfl
  | .object members => by rw [node, Node.skip, skip_memberNodes members]; rfl

@[simp] theorem skip_nodes : (vs : List Json) → skipElements (nodes vs) = none
  | [] => rfl
  | v :: vs => by rw [nodes, skipElements, skip_node v, skip_nodes vs]; rfl

@[simp] theorem skip_memberNodes : (ms : List (String × Json)) → skipMembers (memberNodes ms) = none
  | [] => rfl
  | (_, v) :: ms => by rw [memberNodes, skipMembers, skip_node v, skip_memberNodes ms]; rfl

end

end Flotilla.Json
