import Flotilla.Proofs.Store.Order

/-! # Updates of which nothing is accepted

An update that has no accepted item leaves a store as it was: patches that are refused,
removals of what is absent, and empty lists of records. An empty list of air bases
arranges them nevertheless, which changes nothing in a store that is arranged. -/
namespace Flotilla.Store

variable {α : Type} [Keyed α]

theorem Table.erase_of_absent {t : Table α} {id : Int64} (h : t.contains id = false) :
    t.erase id = t := by
  refine Table.ext (List.filter_eq_self.mpr fun r hr => ?_)
  rw [contains, get?, Option.isSome_eq_false_iff, Option.isNone_iff_eq_none] at h
  have := List.find?_eq_none.mp h r hr
  simpa using this

theorem removeAll_of_none_accepted {t : Table α} {ids : List Int64}
    (h : (removeAll t ids).2.accepted = 0) : (removeAll t ids).1 = t := by
  induction ids generalizing t with
  | nil => rfl
  | cons id ids ih =>
    rw [removeAll, Tally.add_accepted] at h
    cases hid : t.contains id with
    | true =>
      have one : (Tally.one true).accepted = 1 := rfl
      rw [hid, one] at h
      omega
    | false =>
      have rest : (removeAll (t.erase id) ids).2.accepted = 0 := by omega
      have same := ih rest
      rw [Table.erase_of_absent hid] at same
      rw [removeAll, Table.erase_of_absent hid]
      exact same

theorem patch_of_none_accepted {c : Record.Codec α} {t : Table α} {id : Int64}
    {fields : Json.Members} (h : (patch c t id fields).2.accepted = 0) :
    (patch c t id fields).1 = t := by
  unfold patch at h ⊢
  split at h
  · rfl
  · split at h
    · rfl
    · cases h

theorem insertAll_of_none {t : Table α} {rs : List α}
    (h : (Tally.all rs.length).accepted = 0) : t.insertAll rs = t := by
  rw [List.length_eq_zero_iff.mp h]
  rfl

/-- An update of which nothing is accepted leaves an arranged store as it was. -/
theorem Arranged.apply_of_none_accepted {s : Store} (hs : s.Arranged) {u : Update}
    (h : (s.apply u).2.accepted = 0) : (s.apply u).1 = s := by
  cases u with
  | ships records =>
    show { s with ships := s.ships.insertAll records } = s
    rw [insertAll_of_none h]
  | shipPatch id fields =>
    show { s with ships := (patch Ship.codec s.ships id fields).1 } = s
    rw [patch_of_none_accepted h]
  | shipTemplates records =>
    show { s with shipTemplates := s.shipTemplates.insertAll records } = s
    rw [insertAll_of_none h]
  | equipment records =>
    show { s with equipment := s.equipment.insertAll records } = s
    rw [insertAll_of_none h]
  | equipmentRemoved ids =>
    show { s with equipment := (removeAll s.equipment ids).1 } = s
    rw [removeAll_of_none_accepted h]
  | equipmentTemplates records =>
    show { s with equipmentTemplates := s.equipmentTemplates.insertAll records } = s
    rw [insertAll_of_none h]
  | fleets records =>
    show { s with fleets := s.fleets.insertAll records } = s
    rw [insertAll_of_none h]
  | fleetPatch id fields =>
    show { s with fleets := (patch Fleet.codec s.fleets id fields).1 } = s
    rw [patch_of_none_accepted h]
  | combinedFlag value => cases h
  | airBases records =>
    -- the bases are arranged again, which an arranged store does not notice
    have none_ : records = [] := List.length_eq_zero_iff.mp h
    rw [none_]
    show { s with airBases := arrange s.airBases } = s
    rw [hs]

theorem Arranged.applyAll_of_none_accepted {s : Store} (hs : s.Arranged) {us : List Update}
    (h : (s.applyAll us).2.accepted = 0) : (s.applyAll us).1 = s := by
  induction us generalizing s with
  | nil => rfl
  | cons u us ih =>
    rw [Store.applyAll, Tally.add_accepted] at h
    have first : (s.apply u).1 = s := hs.apply_of_none_accepted (by omega)
    have rest := ih (hs.apply u) (by omega)
    rw [Store.applyAll]
    exact rest.trans first

end Flotilla.Store
