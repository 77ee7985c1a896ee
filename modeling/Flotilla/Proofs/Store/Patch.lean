import Flotilla.Proofs.Record.Merge
import Flotilla.Proofs.Store.Lookup
import Flotilla.Proofs.Store.RoundTrip

/-! # Patches

A patch that is accepted for one record is accepted for every record, and sets the same in
it. So patches of one record, one after the other, have the effect of those that come last
for each field; and the id of a record is never among what they set. -/
namespace Flotilla.Store

open Flotilla.Record
open Flotilla.Json (given)

variable {α : Type} [Keyed α]

/-- A record as a patch leaves it, accepted or not. -/
def revised (c : Codec α) (fields : Json.Members) : α → α :=
  c.patched (fields.filter fun m => m.1 != idName)

/-- Records whose patches keep their id, and have the last word in what they set. -/
structure Revises (c : Codec α) : Prop where
  key : ∀ fields r, Keyed.key (revised c fields r) = Keyed.key r
  twice : ∀ fields r, revised c fields (revised c fields r) = revised c fields r
  absorbs : ∀ f g r, revised c f (revised c g (revised c f r)) = revised c f (revised c g r)

theorem Revises.map_map {c : Codec α} (h : Revises c) (f : Json.Members) (x : Option α) :
    (x.map (revised c f)).map (revised c f) = x.map (revised c f) := by
  cases x with
  | none => rfl
  | some r => exact congrArg some (h.twice f r)

theorem Revises.map_absorbs {c : Codec α} (h : Revises c) (f g : Json.Members) (x : Option α) :
    ((x.map (revised c f)).map (revised c g)).map (revised c f)
      = (x.map (revised c g)).map (revised c f) := by
  cases x with
  | none => rfl
  | some r => exact congrArg some (h.absorbs f g r)

theorem given_filter_id (fields : Json.Members) :
    given (fields.filter fun m => m.1 != idName) idName = none := by
  refine Json.lookup_of_not_mem fun h => ?_
  obtain ⟨m, hm, same⟩ := List.mem_map.mp h
  have kept := List.of_mem_filter (List.mem_reverse.mp hm)
  rw [same, bne_self_eq_false] at kept
  cases kept

theorem codecOf_revises {title : String} {blank : α} {columns : List (Column α)}
    (split : Splits columns) (lawful : (codecOf title blank columns).Lawful) {id : Column α}
    (hid : id ∈ columns) (name : id.name = idName)
    (key : ∀ r, id.write r = int64.write (Keyed.key r)) :
    Revises (codecOf title blank columns) where
  key fields r := by
    obtain ⟨value?, none_, set_⟩ := patched_set title blank split
      (fields.filter fun m => m.1 != idName)
    have own := set_ r id hid
    rw [name, none_ idName (given_filter_id fields)] at own
    change id.write _ = id.write r at own
    rw [key, key] at own
    have read_ := int64_lawful.read (Keyed.key r)
    rw [← own, int64_lawful.read] at read_
    exact Except.ok.inj read_
  twice fields r := patched_patched split lawful _ r
  absorbs f g r := patched_absorbs split lawful _ _ r

/-! ## Ships and fleets -/

theorem Stat.codec_holds : Stat.codec.Holds := by
  intro s
  have effective := int64_holds s.effective
  have base := int64_holds s.base
  change readInt64 (int64.write s.effective).node = _ at effective
  change readInt64 (int64.write s.base).node = _ at base
  change Stat.read (.list [(int64.write s.effective).node, (int64.write s.base).node] .held) = _
  simp only [Stat.read, readPlaces, Field.needs, effective, base, Except.map]
  rfl

theorem Ship.columns_split : Splits Ship.columns where
  names := by decide
  separate := by
    have apart : Apart Ship.columns 0 Ship.columns :=
      .needs int64_holds (fun _ _ => rfl) <| .needs int64_holds (fun _ _ => rfl) <|
      .default int64_holds (fun _ _ => rfl) <| .needs int64_holds (fun _ _ => rfl) <|
      .needs int64_holds (fun _ _ => rfl) <|
      .default Stat.codec_holds (fun _ _ => rfl) <| .default Stat.codec_holds (fun _ _ => rfl) <|
      .default Stat.codec_holds (fun _ _ => rfl) <| .default Stat.codec_holds (fun _ _ => rfl) <|
      .default Stat.codec_holds (fun _ _ => rfl) <| .default Stat.codec_holds (fun _ _ => rfl) <|
      .default Stat.codec_holds (fun _ _ => rfl) <| .default Stat.codec_holds (fun _ _ => rfl) <|
      .default int64_holds.list (fun _ _ => rfl) <| .default int64_holds (fun _ _ => rfl) <|
      .default int64_holds.list (fun _ _ => rfl) <| .default int64_holds (fun _ _ => rfl) <|
      .done _
    exact apart.separate rfl

theorem Fleet.columns_split : Splits Fleet.columns where
  names := by decide
  separate := by
    have apart : Apart Fleet.columns 0 Fleet.columns :=
      .needs int64_holds (fun _ _ => rfl) <| .default text_holds (fun _ _ => rfl) <|
      .default int64_holds.list (fun _ _ => rfl) <| .done _
    exact apart.separate rfl

theorem Ship.revises : Revises Ship.codec :=
  codecOf_revises Ship.columns_split Ship.codec_lawful List.mem_cons_self rfl fun _ => rfl

theorem Fleet.revises : Revises Fleet.codec :=
  codecOf_revises Fleet.columns_split Fleet.codec_lawful List.mem_cons_self rfl fun _ => rfl

/-! ## Patched tables -/

/-- A patch is for no record, is refused, or puts the revised record in. -/
theorem patch_cases (c : Codec α) (t : Table α) (id : Int64) (fields : Json.Members) :
    (t.get? id = none ∧ patch c t id fields = (t, .one false)) ∨
    ∃ r, t.get? id = some r ∧
      (revised c fields r = r ∧ patch c t id fields = (t, .one false) ∨
        patch c t id fields = (t.insert (revised c fields r), .one true)) := by
  unfold patch
  cases t.get? id with
  | none => exact .inl ⟨rfl, rfl⟩
  | some r =>
    refine .inr ⟨r, rfl, ?_⟩
    dsimp only [revised, Codec.patched]
    cases c.merge (fields.filter fun m => m.1 != idName) r with
    | error e => exact .inl ⟨rfl, rfl⟩
    | ok r' => exact .inr rfl

theorem get?_patch {c : Codec α} (h : Revises c) (t : Table α) (id : Int64)
    (fields : Json.Members) (k : Int64) :
    (patch c t id fields).1.get? k
      = if k = id then (t.get? k).map (revised c fields) else t.get? k := by
  rcases patch_cases c t id fields with ⟨absent, result⟩ | ⟨r, held, ⟨same, result⟩ | result⟩
  · by_cases hk : k = id <;> simp [result, hk, absent]
  · by_cases hk : k = id <;> simp [result, hk, held, same]
  · have key : Keyed.key (revised c fields r) = id :=
      (h.key fields r).trans (Table.key_of_get? held)
    by_cases hk : k = id
    · simp [result, hk, held, key]
    · simp [result, hk, key, Ne.symm hk]

/-- A patch is one item. -/
theorem patch_single (c : Codec α) (t : Table α) (id : Int64) (fields : Json.Members) :
    ∃ accepted, (patch c t id fields).2 = .one accepted := by
  obtain ⟨_, result⟩ | ⟨r, _, ⟨_, result⟩ | result⟩ := patch_cases c t id fields
  · exact ⟨false, congrArg (·.2) result⟩
  · exact ⟨false, congrArg (·.2) result⟩
  · exact ⟨true, congrArg (·.2) result⟩

/-- Whether a patch is accepted is told by the record that it is for. -/
theorem patch_tally {c : Codec α} {t u : Table α} {id : Int64} (h : t.get? id = u.get? id)
    (fields : Json.Members) : (patch c t id fields).2 = (patch c u id fields).2 := by
  unfold patch
  rw [h]
  split
  · rfl
  · split <;> rfl

end Flotilla.Store
