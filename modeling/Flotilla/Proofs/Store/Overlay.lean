import Flotilla.Proofs.Store.Patch

/-! # Patches as overlays

A patch lays its fields over those of a record. Whether it is accepted is told by its fields
alone, so patches that are accepted each by itself are accepted one after the other, and have
the effect of the one patch in which the fields of the second are laid over those of the
first. What goes through the written form of the record on the way comes back as it was. -/
namespace Flotilla.Store

open Flotilla.Record
open Flotilla.Json (given withGiven)

/-! ## Fields of a patch -/

/-- What the fields of a patch name for a key: the value that they give it last, and nothing for
the id. -/
def named (fields : Json.Members) (key : String) : Option Json :=
  if key = idName then none else given fields key

theorem given_filter (fields : Json.Members) (key : String) :
    given (fields.filter fun m => m.1 != idName) key = named fields key := by
  by_cases own : key = idName
  · simp [named, own, given_filter_id]
  · rw [named, if_neg own]
    induction fields with
    | nil => rfl
    | cons m fields ih =>
      rw [Json.given_cons, ← ih]
      by_cases hm : m.1 = idName
      · simp [hm, own]
      · rw [List.filter_cons_of_pos (by simpa using hm), Json.given_cons]

theorem named_withGiven (f g : Json.Members) (key : String) :
    named (withGiven f g) key = (named g key).or (named f key) := by
  by_cases own : key = idName <;> simp [named, own]

/-! ## Tables -/

section Tables

variable {α : Type} [Keyed α]

theorem Table.insert_insert (t : Table α) {a b : α} (same : Keyed.key a = Keyed.key b) :
    (t.insert a).insert b = t.insert b := by
  refine Table.ext_get? fun k => ?_
  simp only [get?_insert, same]
  split <;> rfl

theorem Table.insert_held {t : Table α} {id : Int64} {r : α} (h : t.get? id = some r) :
    t.insert r = t := by
  refine Table.ext_get? fun k => ?_
  by_cases same : id = k
  · simp [← same, h, key_of_get? h]
  · simp [same, key_of_get? h]

end Tables

/-! ## Records with updates that patch them -/

/-- Records that are patched by an update of their own: their columns, the table of a store that
holds them, and the update. -/
structure Patchable (α : Type) [Keyed α] where
  title : String
  blank : α
  columns : List (Column α)
  table : Store → Table α
  withTable : Store → Table α → Store
  update : Int64 → Json.Members → Update
  split : Splits columns
  lawful : (codecOf title blank columns).Lawful
  revises : Revises (codecOf title blank columns)
  apply_update : ∀ s id fields, s.apply (update id fields)
    = (withTable s (patch (codecOf title blank columns) (table s) id fields).1,
        (patch (codecOf title blank columns) (table s) id fields).2)
  table_withTable : ∀ s t, table (withTable s t) = t
  withTable_withTable : ∀ s t u, withTable (withTable s t) u = withTable s u
  withTable_table : ∀ s, withTable s (table s) = s

attribute [simp] Patchable.table_withTable Patchable.withTable_withTable Patchable.withTable_table

/-- Ships, by ship patches. -/
def Patchable.ships : Patchable Ship where
  title := "struct ShipInstance"
  blank := {}
  columns := Ship.columns
  table := Store.ships
  withTable s ships := { s with ships }
  update := .shipPatch
  split := Ship.columns_split
  lawful := Ship.codec_lawful
  revises := Ship.revises
  apply_update _ _ _ := rfl
  table_withTable _ _ := rfl
  withTable_withTable _ _ _ := rfl
  withTable_table _ := rfl

/-- Fleets, by fleet patches. -/
def Patchable.fleets : Patchable Fleet where
  title := "struct FleetRoster"
  blank := {}
  columns := Fleet.columns
  table := Store.fleets
  withTable s fleets := { s with fleets }
  update := .fleetPatch
  split := Fleet.columns_split
  lawful := Fleet.codec_lawful
  revises := Fleet.revises
  apply_update _ _ _ := rfl
  table_withTable _ _ := rfl
  withTable_withTable _ _ _ := rfl
  withTable_table _ := rfl

namespace Patchable

variable {α : Type} [Keyed α] (k : Patchable α)

/-- The record as accepted fields leave it. -/
def overlaid (fields : Json.Members) (r : α) : α :=
  revised (codecOf k.title k.blank k.columns) fields r

/-- Whether a store accepts a patch of the record with an id. -/
def Accepts (s : Store) (id : Int64) (fields : Json.Members) : Prop :=
  (s.apply (k.update id fields)).2 = .one true

instance (s : Store) (id : Int64) (fields : Json.Members) :
    Decidable (k.Accepts s id fields) :=
  inferInstanceAs (Decidable (_ = _))

/-- Fields of which every one that is named is taken by its column. -/
def Takes (fields : Json.Members) : Prop := Takeable k.columns (named fields)

variable {k} {s : Store} {id : Int64} {r : α} {f g : Json.Members}

theorem takeable_given (h : k.Takes f) :
    Takeable k.columns (given (f.filter fun m => m.1 != idName)) := by
  rw [funext (given_filter f)]
  exact h

/-! ### One patch -/

theorem set_overlaid (h : k.Takes f) (r : α) :
    ∀ c ∈ k.columns, c.Set (named f c.name) r (k.overlaid f r) := by
  intro c hc
  rw [← given_filter]
  exact patched_given k.split (takeable_given h) r c hc

/-- A patch that is taken puts the overlaid record in. -/
theorem apply_of_takes (held : (k.table s).get? id = some r) (h : k.Takes f) :
    s.apply (k.update id f)
      = (k.withTable s ((k.table s).insert (k.overlaid f r)), .one true) := by
  obtain ⟨r', merged⟩ := merge_accepts k.title k.blank k.split (takeable_given h) r
  have result : k.overlaid f r = r' := by
    rw [overlaid, revised, Codec.patched, merged]
  rw [k.apply_update, patch, held, result]
  simp only [merged]

/-- A patch that is not taken leaves the store as it is. -/
theorem apply_of_not_takes (held : (k.table s).get? id = some r) (h : ¬ k.Takes f) :
    s.apply (k.update id f) = (s, .one false) := by
  have refused : ¬ ((codecOf k.title k.blank k.columns).merge
      (f.filter fun m => m.1 != idName) r).isOk := by
    rw [merge_isOk k.split, funext (given_filter f)]
    exact h
  rw [k.apply_update, patch, held]
  cases merged : (codecOf k.title k.blank k.columns).merge
      (f.filter fun m => m.1 != idName) r with
  | error e => simp [merged]
  | ok r' =>
    rw [merged] at refused
    exact absurd rfl refused

theorem accepts_iff (held : (k.table s).get? id = some r) : k.Accepts s id f ↔ k.Takes f := by
  refine ⟨fun accepted => ?_, fun taken => ?_⟩
  · by_contra refused
    rw [Accepts, apply_of_not_takes held refused] at accepted
    cases accepted
  · rw [Accepts, apply_of_takes held taken]

theorem get?_after (held : (k.table s).get? id = some r) (h : k.Takes f) :
    (k.table (s.apply (k.update id f)).1).get? id = some (k.overlaid f r) := by
  have own : Keyed.key (k.overlaid f r) = id := by
    rw [overlaid, k.revises.key, Table.key_of_get? held]
  simp [apply_of_takes held h, own]

/-- Fields that name the same have the same effect on a record. -/
theorem overlaid_congr (hf : k.Takes f) (hg : k.Takes g)
    (same : ∀ c ∈ k.columns, named f c.name = named g c.name) (r : α) :
    k.overlaid f r = k.overlaid g r := by
  refine eq_of_columns k.lawful fun c hc => ?_
  have left := set_overlaid hf r c hc
  rw [same c hc] at left
  exact left.write_eq (set_overlaid hg r c hc)

theorem takes_congr (same : ∀ c ∈ k.columns, named f c.name = named g c.name) :
    k.Takes f ↔ k.Takes g := by
  refine forall₂_congr fun c hc => ?_
  rw [same c hc]

theorem takes_empty : k.Takes [] := by
  intro c _ v hv
  unfold named at hv
  split at hv <;> cases hv

theorem overlaid_empty (r : α) : k.overlaid [] r = r := by
  refine eq_of_columns k.lawful fun c hc => ?_
  have set_ := set_overlaid takes_empty r c hc
  have nothing : named [] c.name = none := by
    unfold named
    split <;> rfl
  rw [nothing] at set_
  exact set_

/-! ### Two patches -/

theorem Takes.withGiven (hf : k.Takes f) (hg : k.Takes g) (r : α) :
    k.Takes (withGiven f g) ∧ k.overlaid g (k.overlaid f r) = k.overlaid (withGiven f g) r := by
  have overlay : ∀ key,
      given ((Json.withGiven f g).filter fun m => m.1 != idName) key
        = (given (g.filter fun m => m.1 != idName) key).or
            (given (f.filter fun m => m.1 != idName) key) := by
    intro key
    rw [given_filter, given_filter, given_filter, named_withGiven]
  obtain ⟨taken, same⟩ := patched_overlay k.split k.lawful (takeable_given hf)
    (takeable_given hg) overlay r
  rw [funext (given_filter _)] at taken
  exact ⟨taken, same⟩

/-- Patches that are taken, one after the other, put in what the second leaves of what the first
leaves. -/
theorem apply_apply (held : (k.table s).get? id = some r) (hf : k.Takes f) (hg : k.Takes g) :
    (s.apply (k.update id f)).1.apply (k.update id g)
      = (k.withTable s ((k.table s).insert (k.overlaid g (k.overlaid f r))), .one true) := by
  have sameKey : Keyed.key (k.overlaid f r) = Keyed.key (k.overlaid g (k.overlaid f r)) := by
    rw [overlaid, overlaid, k.revises.key, k.revises.key, k.revises.key]
  rw [apply_of_takes (get?_after held hf) hg, apply_of_takes held hf, k.table_withTable,
    k.withTable_withTable, Table.insert_insert _ sameKey]

end Patchable

/-! ## Overlays -/

/-- Patches of one record of a store lay their fields over those of the record. -/
structure Overlays {α : Type} [Keyed α] (k : Patchable α) (s : Store) (id : Int64) : Prop where
  /-- Accepted patches, one after the other, have the effect of the one that lays the fields of
  the second over those of the first, and it is accepted. -/
  composed : ∀ f g, k.Accepts s id f → k.Accepts s id g →
    k.Accepts s id (withGiven f g) ∧
      (s.apply (k.update id f)).1.apply (k.update id g) = s.apply (k.update id (withGiven f g))
  /-- Each column has after them what the second names for it, else what the first names, else
  what it had. -/
  sets : ∀ f g, k.Accepts s id f → k.Accepts s id g → ∀ r, (k.table s).get? id = some r →
    ∃ r', (k.table ((s.apply (k.update id f)).1.apply (k.update id g)).1).get? id = some r' ∧
      ∀ c ∈ k.columns, c.Set ((named g c.name).or (named f c.name)) r r'
  /-- What is named for no column, or for the id, has no effect. -/
  unnamed : ∀ f g, (∀ c ∈ k.columns, named f c.name = named g c.name) →
    s.apply (k.update id f) = s.apply (k.update id g)
  /-- A patch of no fields is accepted and changes nothing. -/
  empty : s.apply (k.update id []) = (s, .one true)
  /-- A patch is accepted when the columns take what is named for them. -/
  accepts_iff : ∀ f, k.Accepts s id f ↔ k.Takes f
  /-- So a patch gets the same tally for every record of every store. -/
  alone : ∀ t id', ((k.table t).get? id').isSome → ∀ f,
    (t.apply (k.update id' f)).2 = (s.apply (k.update id f)).2

theorem Patchable.overlays {α : Type} [Keyed α] (k : Patchable α) {s : Store} {id : Int64}
    (present : ((k.table s).get? id).isSome) : Overlays k s id := by
  obtain ⟨r, held⟩ := Option.isSome_iff_exists.mp present
  refine ⟨fun f g hf hg => ?_, fun f g hf hg r₁ held₁ => ?_, fun f g same => ?_, ?_,
    fun f => accepts_iff held, fun t id' present' f => ?_⟩
  · rw [accepts_iff held] at hf hg
    obtain ⟨taken, sameRecord⟩ := hf.withGiven hg r
    refine ⟨(accepts_iff held).mpr taken, ?_⟩
    rw [apply_apply held hf hg, apply_of_takes held taken, sameRecord]
  · rw [accepts_iff held] at hf hg
    refine ⟨_, get?_after (get?_after held₁ hf) hg, fun c hc => ?_⟩
    exact (set_overlaid hf r₁ c hc).trans (set_overlaid hg _ c hc)
  · by_cases taken : k.Takes f
    · have taken' := (takes_congr same).mp taken
      rw [apply_of_takes held taken, apply_of_takes held taken', overlaid_congr taken taken' same]
    · have refused : ¬ k.Takes g := fun h => taken ((takes_congr same).mpr h)
      rw [apply_of_not_takes held taken, apply_of_not_takes held refused]
  · rw [apply_of_takes held takes_empty, overlaid_empty, Table.insert_held held,
      k.withTable_table]
  · obtain ⟨r', held'⟩ := Option.isSome_iff_exists.mp present'
    by_cases taken : k.Takes f
    · rw [apply_of_takes held taken, apply_of_takes held' taken]
    · rw [apply_of_not_takes held taken, apply_of_not_takes held' taken]

/-- Patches of a ship, and those of a fleet, lay their fields over those of the record, in any
store that holds it. -/
theorem patches_overlay (s : Store) (id : Int64) :
    ((s.ships.get? id).isSome → Overlays .ships s id) ∧
      ((s.fleets.get? id).isSome → Overlays .fleets s id) :=
  ⟨Patchable.ships.overlays, Patchable.fleets.overlays⟩

/-- A store with a ship and its fleet. -/
def moored : Store where
  ships := .ofList [{ id := 7, templateId := 3, level := 4, nowHp := 9, maxHp := 12 }]
  fleets := .ofList [{ id := 1, name := "first", shipIds := [7] }]

/-- Two patches of a ship that both set its level, with a field that no ship has and an id, and
two of a fleet. -/
theorem patches_overlay_moored :
    let f := [("level", .int 5), ("id", .int 9), ("moodValue", .null)]
    let g := [("now_hp", .int 3), ("level", .int 6)]
    let home := [("ship_ids", .list [])]
    let away := [("name", .string "second")]
    (moored.ships.get? 7).isSome ∧ (moored.fleets.get? 1).isSome ∧
      (moored.apply (.shipPatch 7 f)).2 = .one true ∧
      (moored.apply (.shipPatch 7 g)).2 = .one true ∧
      (moored.apply (.shipPatch 7 f)).1.apply (.shipPatch 7 g)
        = moored.apply (.shipPatch 7 (withGiven f g)) ∧
      (moored.apply (.fleetPatch 1 home)).1.apply (.fleetPatch 1 away)
        = moored.apply (.fleetPatch 1 (withGiven home away)) := by
  intro f g home away
  have ship : (moored.ships.get? 7).isSome := by decide +kernel
  have fleet : (moored.fleets.get? 1).isSome := by decide +kernel
  have hf : Patchable.ships.Accepts moored 7 f := by decide +kernel
  have hg : Patchable.ships.Accepts moored 7 g := by decide +kernel
  have hhome : Patchable.fleets.Accepts moored 1 home := by decide +kernel
  have haway : Patchable.fleets.Accepts moored 1 away := by decide +kernel
  have ships := (patches_overlay moored 7).1 ship
  have fleets := (patches_overlay moored 1).2 fleet
  exact ⟨ship, fleet, hf, hg, (ships.composed f g hf hg).2,
    (fleets.composed home away hhome haway).2⟩

end Flotilla.Store
