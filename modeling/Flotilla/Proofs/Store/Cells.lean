import Flotilla.Proofs.Store.AirBases
import Flotilla.Proofs.Store.Patch

/-! # Cells of a store

A store is made of cells: the record under each id of each table, the combined flag, and the
bases of each area and base. An update acts on each cell by itself: it leaves the cell,
overwrites it, or revises what it holds, whatever stands in the others. -/
namespace Flotilla

open Flotilla.Record Flotilla.Store

/-- A place of a store that updates act on by itself. -/
inductive Cell where
  | ship (id : Int64)
  | shipTemplate (id : Int64)
  | equipment (id : Int64)
  | equipmentTemplate (id : Int64)
  | fleet (id : Int64)
  | combined
  | airBase (area base : Int64)
deriving DecidableEq

namespace Cell

/-- What a cell can hold. -/
abbrev Content : Cell → Type
  | ship _ => Option Ship
  | shipTemplate _ => Option ShipTemplate
  | equipment _ => Option Equipment
  | equipmentTemplate _ => Option EquipmentTemplate
  | fleet _ => Option Fleet
  | combined => CombinedMode
  | airBase _ _ => List AirBase

/-- How what a cell holds can be revised: ships and fleets by patches, the bases of an area and
base by one that takes the place of the first. -/
abbrev Revision : Cell → Type
  | ship _ | fleet _ => Json.Members
  | airBase _ _ => AirBase
  | shipTemplate _ | equipment _ | equipmentTemplate _ | combined => Empty

/-- Revises what a cell holds. -/
def revise : (c : Cell) → c.Revision → c.Content → c.Content
  | ship _ => fun fields => Option.map (revised Ship.codec fields)
  | fleet _ => fun fields => Option.map (revised Fleet.codec fields)
  | airBase _ _ => fun b bases => b.arranged :: bases.tail
  | shipTemplate _ | equipment _ | equipmentTemplate _ | combined => nofun

theorem revise_revise (c : Cell) (i : c.Revision) (x : c.Content) :
    c.revise i (c.revise i x) = c.revise i x := by
  cases c with
  | ship id => exact Ship.revises.map_map i x
  | fleet id => exact Fleet.revises.map_map i x
  | airBase area base => rfl
  | _ => exact i.elim

/-- A revision behind another one has the last word, as if it had not been in front of it. -/
theorem revise_absorbs (c : Cell) (i j : c.Revision) (x : c.Content) :
    c.revise i (c.revise j (c.revise i x)) = c.revise i (c.revise j x) := by
  cases c with
  | ship id => exact Ship.revises.map_absorbs i j x
  | fleet id => exact Fleet.revises.map_absorbs i j x
  | airBase area base => rfl
  | _ => exact i.elim

end Cell

/-! ## Effects -/

/-- What an update does to a cell. -/
inductive Effect (c : Cell) where
  | keep
  | write (x : c.Content)
  | revise (i : c.Revision)

namespace Effect

variable {c : Cell}

/-- What a cell holds after an effect. -/
def run : Effect c → c.Content → c.Content
  | keep, x => x
  | write y, _ => y
  | revise i, x => c.revise i x

@[simp] theorem run_keep (x : c.Content) : keep.run x = x := rfl

@[simp] theorem run_write (x y : c.Content) : (write y).run x = y := rfl

@[simp] theorem run_revise (i : c.Revision) (x : c.Content) :
    (Effect.revise i).run x = c.revise i x := rfl

@[simp] theorem run_run (e : Effect c) (x : c.Content) : e.run (e.run x) = e.run x := by
  cases e with
  | keep => rfl
  | write y => rfl
  | revise i => exact c.revise_revise i x

/-- An effect that comes again behind another one makes its first coming unseen. -/
theorem run_absorbs (e f : Effect c) (x : c.Content) :
    e.run (f.run (e.run x)) = e.run (f.run x) := by
  cases e with
  | keep => rfl
  | write y => rfl
  | revise i =>
    cases f with
    | keep => exact c.revise_revise i x
    | write y => rfl
    | revise j => exact c.revise_absorbs i j x

/-- The effect of what is added to a cell last, if anything is. -/
def adding {α : Type} (effect : α → Effect c) (last : Option α) : Effect c := last.elim keep effect

@[simp] theorem run_adding {α : Type} (effect : α → Effect c) (last : Option α) (x : c.Content) :
    (adding effect last).run x = last.elim x fun a => (effect a).run x := by
  cases last <;> rfl

/-- An effect on a cell that is among those named. -/
def onNamed (named : Prop) [Decidable named] (effect : Effect c) : Effect c :=
  if named then effect else keep

@[simp] theorem run_onNamed (named : Prop) [Decidable named] (effect : Effect c) (x : c.Content) :
    (onNamed named effect).run x = if named then effect.run x else x := by
  unfold onNamed
  split <;> rfl

section

variable {P : c.Content → Prop} {x : c.Content} (h : P x)

include h

/-- What a cell holds has a property still when the effect that is chosen leaves it so. -/
theorem keeps_adding {α : Type} {effect : α → Effect c} {last : Option α}
    (after : ∀ a, last = some a → P ((effect a).run x)) : P ((adding effect last).run x) := by
  cases last with
  | none => exact h
  | some a => exact after a rfl

theorem keeps_onNamed {named : Prop} [Decidable named] {effect : Effect c}
    (after : named → P (effect.run x)) : P ((onNamed named effect).run x) := by
  rw [run_onNamed]
  split
  · rename_i here
    exact after here
  · exact h

end

end Effect

/-- What an update does to each cell. -/
def Update.effect : Update → (c : Cell) → Effect c
  | .ships records, .ship id => .adding (fun r => .write (some r)) (lastOf? records id)
  | .shipPatch k fields, .ship id => .onNamed (id = k) (.revise fields)
  | .shipTemplates records, .shipTemplate id =>
    .adding (fun r => .write (some r)) (lastOf? records id)
  | .equipment records, .equipment id => .adding (fun r => .write (some r)) (lastOf? records id)
  | .equipmentRemoved ids, .equipment id => .onNamed (id ∈ ids) (.write none)
  | .equipmentTemplates records, .equipmentTemplate id =>
    .adding (fun r => .write (some r)) (lastOf? records id)
  | .fleets records, .fleet id => .adding (fun r => .write (some r)) (lastOf? records id)
  | .fleetPatch k fields, .fleet id => .onNamed (id = k) (.revise fields)
  | .combinedFlag value, .combined => .write value
  | .airBases records, .airBase area base =>
    .adding (fun b : AirBase => .revise b) (lastBase? records area base)
  | _, _ => .keep

namespace Store

/-- What a cell of a store holds; of bases, the arranged form. -/
def content (s : Store) : (c : Cell) → c.Content
  | .ship id => s.ships.get? id
  | .shipTemplate id => s.shipTemplates.get? id
  | .equipment id => s.equipment.get? id
  | .equipmentTemplate id => s.equipmentTemplates.get? id
  | .fleet id => s.fleets.get? id
  | .combined => s.combined
  | .airBase area base => (basesAt area base s.airBases).map AirBase.arranged

theorem content_airBases (records bases : List AirBase) (area base : Int64) :
    (basesAt area base (arrange (records.foldl replaceBase bases))).map AirBase.arranged
      = (lastBase? records area base).elim ((basesAt area base bases).map AirBase.arranged)
          fun b => b.arranged :: ((basesAt area base bases).map AirBase.arranged).tail := by
  have twice : AirBase.arranged ∘ AirBase.arranged = AirBase.arranged :=
    funext AirBase.arranged_arranged
  rw [basesAt_arrange, List.map_map, twice, basesAt_foldl_replaceBase]
  cases lastBase? records area base with
  | none => rfl
  | some b => exact congrArg (b.arranged :: ·) List.map_tail

/-- An update acts on each cell by itself. -/
@[simp] theorem content_apply (s : Store) (u : Update) (c : Cell) :
    (s.apply u).1.content c = (u.effect c).run (s.content c) := by
  -- an update has an effect on cells of one kind only
  cases u with
  | ships records =>
    cases c with
    | ship id => simp [apply, content, Update.effect]
    | _ => rfl
  | shipPatch k fields =>
    cases c with
    | ship id =>
      simpa [apply, content, Update.effect, Cell.revise]
        using get?_patch Ship.revises s.ships k fields id
    | _ => rfl
  | shipTemplates records =>
    cases c with
    | shipTemplate id => simp [apply, content, Update.effect]
    | _ => rfl
  | equipment records =>
    cases c with
    | equipment id => simp [apply, content, Update.effect]
    | _ => rfl
  | equipmentRemoved ids =>
    cases c with
    | equipment id => simp [apply, content, Update.effect]
    | _ => rfl
  | equipmentTemplates records =>
    cases c with
    | equipmentTemplate id => simp [apply, content, Update.effect]
    | _ => rfl
  | fleets records =>
    cases c with
    | fleet id => simp [apply, content, Update.effect]
    | _ => rfl
  | fleetPatch k fields =>
    cases c with
    | fleet id =>
      simpa [apply, content, Update.effect, Cell.revise]
        using get?_patch Fleet.revises s.fleets k fields id
    | _ => rfl
  | combinedFlag value => cases c <;> rfl
  | airBases records =>
    cases c with
    | airBase area base =>
      simpa [apply, content, Update.effect, Cell.revise]
        using content_airBases records s.airBases area base
    | _ => rfl

/-! ## Extensionality -/

theorem basesAt_of_arranged {s : Store} (h : s.Arranged) (area base : Int64) :
    basesAt area base s.airBases = s.content (.airBase area base) := by
  show _ = (basesAt area base s.airBases).map AirBase.arranged
  rw [← basesAt_arrange, h]

theorem Arranged.sorted {s : Store} (h : s.Arranged) : Sorted AirBase.le s.airBases := by
  have same : arrange s.airBases = s.airBases := h
  rw [← same]
  exact sorted_map_arranged (sorted_inOrder s.airBases)

/-- An update puts the bases in order, or leaves them alone. -/
theorem arranged_or_kept (u : Update) :
    (∀ s : Store, (s.apply u).1.Arranged) ∨ ∀ s : Store, (s.apply u).1.airBases = s.airBases := by
  cases u with
  | airBases records => exact .inl fun s => arrange_arrange _
  | _ => exact .inr fun s => rfl

/-- A store is told by what its cells hold, and by its bases when these are not in order. -/
theorem eq_of_content {s t : Store} (h : ∀ c, s.content c = t.content c)
    (bases : s.airBases = t.airBases ∨ s.Arranged ∧ t.Arranged) : s = t := by
  have airBases : s.airBases = t.airBases := by
    rcases bases with same | ⟨hs, ht⟩
    · exact same
    · refine eq_of_basesAt hs.sorted ht.sorted fun area base => ?_
      rw [basesAt_of_arranged hs, basesAt_of_arranged ht, h]
  have ships : s.ships = t.ships := Table.ext_get? fun id => h (.ship id)
  have shipTemplates : s.shipTemplates = t.shipTemplates :=
    Table.ext_get? fun id => h (.shipTemplate id)
  have equipment : s.equipment = t.equipment := Table.ext_get? fun id => h (.equipment id)
  have equipmentTemplates : s.equipmentTemplates = t.equipmentTemplates :=
    Table.ext_get? fun id => h (.equipmentTemplate id)
  have fleets : s.fleets = t.fleets := Table.ext_get? fun id => h (.fleet id)
  have combined : s.combined = t.combined := h .combined
  cases s
  cases t
  simp only [Store.mk.injEq]
  exact ⟨ships, shipTemplates, equipment, equipmentTemplates, fleets, combined, airBases⟩

end Store

end Flotilla
