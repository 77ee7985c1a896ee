import Flotilla.Proofs.Store.Redelivery

/-! # Records under their own ids

A patch puts the revised record back under the id that it asks for, and an air base takes the
place of the first one of its area and base: neither looks at what the new record itself says.
That each record stands where it belongs is therefore an invariant of the cells, which every
update keeps in every cell. -/
namespace Flotilla

open Flotilla.Record Flotilla.Store

section Records

variable {α : Type} [Keyed α] {id : Int64} {held : Option α}

/-- The record under an id, if there is one, has that id. -/
def OwnId (id : Int64) (held : Option α) : Prop := ∀ r, held = some r → Keyed.key r = id

theorem OwnId.none : OwnId id (none : Option α) := nofun

theorem OwnId.last {records : List α} {r : α} (h : lastOf? records id = some r) :
    OwnId id (some r) := by
  rintro r ⟨⟩
  simpa using List.find?_some h

theorem OwnId.revised {c : Codec α} (hc : Revises c) (h : OwnId id held)
    (fields : Json.Members) : OwnId id (held.map (revised c fields)) := by
  intro r hr
  obtain ⟨old, hold, rfl⟩ := Option.map_eq_some_iff.mp hr
  rw [hc.key, h old hold]

end Records

/-- What a cell holds belongs there: a record under its own id, bases at their own area and
base, with their squadrons in order of slot. -/
def Cell.Owns : (c : Cell) → c.Content → Prop
  | ship id => @OwnId Ship _ id
  | shipTemplate id => @OwnId ShipTemplate _ id
  | equipment id => @OwnId Equipment _ id
  | equipmentTemplate id => @OwnId EquipmentTemplate _ id
  | fleet id => @OwnId Fleet _ id
  | combined => fun _ => True
  | airBase area base => fun (bases : List AirBase) =>
    ∀ b ∈ bases, b.isAt area base ∧ Sorted Squadron.le b.squadrons

namespace Cell

theorem Owns.replaced {area base : Int64} {bases records : List AirBase} {last : AirBase}
    (h : (airBase area base).Owns bases) (hlast : lastBase? records area base = some last) :
    (airBase area base).Owns (last.arranged :: bases.tail) := by
  intro b hb
  rcases List.mem_cons.mp hb with rfl | hb
  · have at_ : last.isAt area base := List.find?_some hlast
    exact ⟨at_, sorted_inOrder last.squadrons⟩
  · exact h b (List.mem_of_mem_tail hb)

/-- Every update leaves in a cell what belongs there. -/
theorem Owns.run {c : Cell} {held : c.Content} (h : c.Owns held) (u : Update) :
    c.Owns ((u.effect c).run held) := by
  -- an update has an effect on cells of one kind only
  cases u with
  | ships records =>
    cases c with
    | ship id => exact Effect.keeps_adding h fun _ => OwnId.last
    | _ => exact h
  | shipPatch k fields =>
    cases c with
    | ship id => exact Effect.keeps_onNamed h fun _ => OwnId.revised Ship.revises h fields
    | _ => exact h
  | shipTemplates records =>
    cases c with
    | shipTemplate id => exact Effect.keeps_adding h fun _ => OwnId.last
    | _ => exact h
  | equipment records =>
    cases c with
    | equipment id => exact Effect.keeps_adding h fun _ => OwnId.last
    | _ => exact h
  | equipmentRemoved ids =>
    cases c with
    | equipment id => exact Effect.keeps_onNamed h fun _ => OwnId.none
    | _ => exact h
  | equipmentTemplates records =>
    cases c with
    | equipmentTemplate id => exact Effect.keeps_adding h fun _ => OwnId.last
    | _ => exact h
  | fleets records =>
    cases c with
    | fleet id => exact Effect.keeps_adding h fun _ => OwnId.last
    | _ => exact h
  | fleetPatch k fields =>
    cases c with
    | fleet id => exact Effect.keeps_onNamed h fun _ => OwnId.revised Fleet.revises h fields
    | _ => exact h
  | combinedFlag value =>
    cases c with
    | combined => trivial
    | _ => exact h
  | airBases records =>
    cases c with
    | airBase area base => exact Effect.keeps_adding h fun _ => h.replaced
    | _ => exact h

theorem Owns.runAll {c : Cell} {held : c.Content} (h : c.Owns held) (us : List Update) :
    c.Owns (us.foldl (fun x u => (u.effect c).run x) held) := by
  induction us generalizing held with
  | nil => exact h
  | cons u us ih => exact ih (h.run u)

end Cell

namespace Store

/-- A store to start from: an empty one, or that of a snapshot. -/
def Fresh (s : Store) : Prop := s = {} ∨ ∃ text, ofText text = .ok s

theorem Fresh.arranged {s : Store} (h : s.Fresh) : s.Arranged := by
  rcases h with rfl | ⟨text, htext⟩
  · exact arranged_empty
  · exact arranged_of_ofText htext

theorem Arranged.squadrons {s : Store} (h : s.Arranged) {b : AirBase} (hb : b ∈ s.airBases) :
    Sorted Squadron.le b.squadrons := by
  have same : arrange s.airBases = s.airBases := h
  rw [← same] at hb
  obtain ⟨b, _, rfl⟩ := List.mem_map.mp hb
  exact sorted_inOrder b.squadrons

/-- A table is read by the ids of its records, so a store to start from has each of them in its
place. -/
theorem Fresh.owns {s : Store} (h : s.Fresh) (c : Cell) : c.Owns (s.content c) := by
  cases c with
  | airBase area base =>
    intro b hb
    rw [← basesAt_of_arranged h.arranged] at hb
    obtain ⟨held, at_⟩ := List.mem_filter.mp hb
    exact ⟨at_, h.arranged.squadrons held⟩
  | combined => trivial
  | _ => exact fun r hr => Table.key_of_get? hr

/-! ## Repeated bases -/

/-- Whether more than one base stands at an area and base. -/
def Repeats (s : Store) (area base : Int64) : Prop :=
  1 < (basesAt area base s.airBases).length

instance (s : Store) (area base : Int64) : Decidable (s.Repeats area base) :=
  inferInstanceAs (Decidable (1 < _))

theorem basesAt_apply_airBases (s : Store) (records : List AirBase) (area base : Int64) :
    basesAt area base (s.apply (.airBases records)).1.airBases
      = ((lastBase? records area base).elim (basesAt area base s.airBases)
          fun b => b :: (basesAt area base s.airBases).tail).map AirBase.arranged := by
  show basesAt area base (arrange (records.foldl replaceBase s.airBases)) = _
  rw [basesAt_arrange, basesAt_foldl_replaceBase]

/-- No update repeats a base, and none replaces a repeated base as a whole. -/
theorem repeats_apply (s : Store) (u : Update) (area base : Int64) :
    (s.apply u).1.Repeats area base ↔ s.Repeats area base := by
  cases u with
  | airBases records =>
    unfold Repeats
    rw [basesAt_apply_airBases, List.length_map]
    cases lastBase? records area base with
    | none => rfl
    | some last =>
      show 1 < (last :: (basesAt area base s.airBases).tail).length ↔ _
      rw [List.length_cons, List.length_tail]
      omega
  | _ => rfl

theorem repeats_applyAll (s : Store) (us : List Update) (area base : Int64) :
    (s.applyAll us).1.Repeats area base ↔ s.Repeats area base := by
  induction us generalizing s with
  | nil => rfl
  | cons u us ih => exact (ih _).trans (repeats_apply s u area base)

theorem basesAt_eq_filter (s : Store) (area base : Int64) :
    basesAt area base s.airBases = (s.airBasesIn area).filter fun b => b.baseId == base := by
  rw [airBasesIn, List.filter_filter]
  exact congrArg (List.filter · _) (funext fun b => Bool.and_comm _ _)

end Store

end Flotilla
