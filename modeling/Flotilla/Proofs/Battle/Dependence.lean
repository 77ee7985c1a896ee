import Flotilla.Battle.Export
import Flotilla.Battle.Summary
import Flotilla.Proofs.Battle.Feed
import Flotilla.Proofs.Store.Audit
import Flotilla.Proofs.Store.Parts

/-! # What the views of a battle read

A summary names ships by their templates, and an attack table names planes by theirs. Each goes
through joins that could read every table of a store. Reader by reader, what is read is told by a
few parts, so updates of the other parts change nothing; the exported lines read nothing at all. -/
namespace Flotilla.Battle

open Flotilla.Store

/-- What is read off a store is told by some of its parts. -/
def DependsOn {α : Type} (parts : List Part) (read : Store → α) : Prop :=
  ∀ s t, s.AgreeOn parts t → read s = read t

namespace DependsOn

variable {α : Type} {parts : List Part} {read : Store → α}

theorem mono (h : DependsOn parts read) {more : List Part} (sub : parts ⊆ more) :
    DependsOn more read :=
  fun s t agree => h s t fun p hp => agree p (sub hp)

/-- Updates of other parts leave what is read as it is. -/
theorem applyAll (h : DependsOn parts read) (s : Store) {us : List Update}
    (other : ∀ u ∈ us, u.part ∉ parts) : read (s.applyAll us).1 = read s :=
  h _ _ (s.agreeOn_applyAll other)

end DependsOn

/-! ## Summaries -/

theorem dependsOn_friendlyIdentity (f : Formation) :
    DependsOn [.ships, .shipTemplates] (friendlyIdentity · f) := by
  intro s t agree
  have ships : s.ships = t.ships := agree .ships (by decide)
  have templates : s.shipTemplates = t.shipTemplates := agree .shipTemplates (by decide)
  -- the join reads equipment too, but no name, level or hit points come from it
  have name (id : Int64) : (s.joinShip id).displayName = (t.joinShip id).displayName := by
    rw [displayName_joinShip, displayName_joinShip, ships, templates]
  have ship (id : Int64) : (s.joinShip id).ship = (t.joinShip id).ship := by
    rw [ship_joinShip, ship_joinShip, ships]
  funext position
  simp only [friendlyIdentity, name, ship]

theorem dependsOn_enemyIdentity (b : Battle) : DependsOn [.shipTemplates] (enemyIdentity · b) := by
  intro s t agree
  have templates : s.shipTemplates = t.shipTemplates := agree .shipTemplates (by decide)
  funext position
  simp only [enemyIdentity, templates]

theorem dependsOn_formation (fleetId : Int64) (mode : CombinedMode) :
    DependsOn [.fleets] fun s => formation s.fleets fleetId mode := by
  intro s t agree
  have fleets : s.fleets = t.fleets := agree .fleets (by decide)
  exact congrArg (formation · fleetId mode) fleets

/-- The parts that summaries are about. -/
def summaryParts : List Part := [.ships, .shipTemplates, .fleets]

theorem dependsOn_summarize (b : Battle) : DependsOn summaryParts (summarize · b) := by
  intro s t agree
  have fleet := (dependsOn_formation b.fleetId b.combined).mono (by decide) s t agree
  have friendly (f : Formation) :=
    (dependsOn_friendlyIdentity f).mono (by decide) s t agree
  have enemy := (dependsOn_enemyIdentity b).mono (by decide) s t agree
  simp only [summarize, fleet, friendly, enemy]

/-! ## Attack tables -/

theorem dependsOn_joinEquipment (id : Int64) :
    DependsOn [.equipment, .equipmentTemplates] (joinEquipment · id) := by
  intro s t agree
  have equipment : s.equipment = t.equipment := agree .equipment (by decide)
  have templates : s.equipmentTemplates = t.equipmentTemplates :=
    agree .equipmentTemplates (by decide)
  simp only [joinEquipment, equipment, templates]

theorem dependsOn_planeSlot? (id : Int64) : DependsOn [.equipment] (planeSlot? · id) := by
  intro s t agree
  have equipment : s.equipment = t.equipment := agree .equipment (by decide)
  simp only [planeSlot?, equipment]

theorem dependsOn_landBasePool (areaId : Int64) :
    DependsOn [.equipment, .airBases] (landBasePool · areaId) := by
  intro s t agree
  have bases : s.airBases = t.airBases := agree .airBases (by decide)
  have plane (id : Int64) := (dependsOn_planeSlot? id).mono (by decide) s t agree
  simp only [landBasePool, airBasesIn, bases, plane]

theorem dependsOn_mayFly (plane : PlaneSlot) : DependsOn [.equipmentTemplates] (mayFly · plane) := by
  intro s t agree
  have templates : s.equipmentTemplates = t.equipmentTemplates :=
    agree .equipmentTemplates (by decide)
  simp only [mayFly, templates]

theorem dependsOn_planesAt (f : Formation) (position : Nat) :
    DependsOn [.ships, .equipment, .equipmentTemplates] (planesAt · f position) := by
  intro s t agree
  have ships : s.ships = t.ships := agree .ships (by decide)
  have plane : planeSlot? s = planeSlot? t :=
    funext fun id => (dependsOn_planeSlot? id).mono (by decide) s t agree
  have flies : mayFly s = mayFly t :=
    funext fun plane => (dependsOn_mayFly plane).mono (by decide) s t agree
  simp only [planesAt, ships, plane, flies]

theorem dependsOn_airPool (f : Formation) (areaId : Int64) (stage : AirStage)
    (strike : AirStrike) :
    DependsOn [.ships, .equipment, .equipmentTemplates, .airBases]
      (airPool · f areaId stage strike) := by
  intro s t agree
  have bases := (dependsOn_landBasePool areaId).mono (by decide) s t agree
  have planes : planesAt s f = planesAt t f :=
    funext fun position => (dependsOn_planesAt f position).mono (by decide) s t agree
  simp only [airPool, carrierPool, bases, planes]

theorem dependsOn_planeRefs (pool : List PlaneSlot) (squadrons : List Int64) :
    DependsOn [.equipment, .equipmentTemplates] (planeRefs · pool squadrons) := by
  intro s t agree
  have item : s.joinEquipment = t.joinEquipment :=
    funext fun id => dependsOn_joinEquipment id s t agree
  simp only [planeRefs, joinEquipmentList, item]

theorem dependsOn_contact? (p : AirPhase) (side : Side) :
    DependsOn [.equipmentTemplates] (contact? · p side) := by
  intro s t agree
  have templates : s.equipmentTemplates = t.equipmentTemplates :=
    agree .equipmentTemplates (by decide)
  simp only [contact?, templateName, templates]

/-- The parts that attack tables are about. -/
def tableParts : List Part := [.ships, .equipment, .equipmentTemplates, .fleets, .airBases]

theorem dependsOn_tableBody (f : Formation) (areaId : Int64) (p : Phase) :
    DependsOn [.ships, .equipment, .equipmentTemplates, .airBases] (tableBody · f areaId p) := by
  intro s t agree
  cases p with
  | air p =>
    have pool (stage : AirStage) (strike : AirStrike) :=
      dependsOn_airPool f areaId stage strike s t agree
    have refs (pool : List PlaneSlot) (squadrons : List Int64) :=
      (dependsOn_planeRefs pool squadrons).mono (by decide) s t agree
    have contacts : contact? s p = contact? t p :=
      funext fun side => (dependsOn_contact? p side).mono (by decide) s t agree
    simp only [tableBody, airPlanes, pool, refs, contacts]
  | torpedo p => rfl
  | shelling p => rfl
  | support p => rfl

theorem dependsOn_attackTables (b : Battle) : DependsOn tableParts (attackTables · b) := by
  intro s t agree
  have fleet := (dependsOn_formation b.fleetId b.combined).mono (by decide) s t agree
  have body (f : Formation) (p : Phase) :=
    (dependsOn_tableBody f b.areaId p).mono (by decide) s t agree
  simp only [attackTables, fleet, body]

/-! ## Exported lines -/

/-- The lines of a phase come from its attacks; planes and contacts are not among them. -/
theorem exportRows_tableBody (s t : Store) (f g : Formation) (areaId : Int64)
    (segment : SegmentKind) (p : Phase) :
    AttackTable.exportRows ⟨segment, p.label, p.wave?, tableBody s f areaId p⟩
      = AttackTable.exportRows ⟨segment, p.label, p.wave?, tableBody t g areaId p⟩ := by
  cases p <;> rfl

theorem dependsOn_exportRows (b : Battle) :
    DependsOn [] fun s => exportRows (attackTables s b) := by
  intro s t _
  -- the formations may differ, but nothing exported comes from them
  simp only [exportRows, attackTables, List.flatMap_assoc, List.flatMap_map]
  refine List.flatMap_congr fun x _ => List.flatMap_congr fun p _ => ?_
  exact exportRows_tableBody s t _ _ b.areaId x.1 p

/-- The views of a battle are told by the parts they are about. Exported lines are the same for
all stores, summaries stay as they are when equipment, its templates, air bases or the combined
flag change, and attack tables when ship templates or the combined flag do. -/
theorem views_read_their_parts (b : Battle) :
    (∀ s t, exportRows (attackTables s b) = exportRows (attackTables t b)) ∧
    (∀ s us, (∀ u ∈ us, u.part ∈ [.equipment, .equipmentTemplates, .airBases, .combined]) →
      summarize (s.applyAll us).1 b = summarize s b) ∧
    ∀ s us, (∀ u ∈ us, u.part ∈ [.shipTemplates, .combined]) →
      attackTables (s.applyAll us).1 b = attackTables s b := by
  have apart (p : Part) :
      (p ∈ [.equipment, .equipmentTemplates, .airBases, .combined] → p ∉ summaryParts) ∧
        (p ∈ [.shipTemplates, .combined] → p ∉ tableParts) := by
    cases p <;> decide
  refine ⟨fun s t => dependsOn_exportRows b s t nofun, fun s us h => ?_, fun s us h => ?_⟩
  · exact (dependsOn_summarize b).applyAll s fun u hu => (apart u.part).1 (h u hu)
  · exact (dependsOn_attackTables b).applyAll s fun u hu => (apart u.part).2 (h u hu)

/-- An item goes and a ship gets another template, each while the fleets are parted. -/
theorem views_read_their_parts_skirmish :
    let items : List Update := [.combinedFlag .single, .equipmentRemoved [5]]
    let ships : List Update := [.combinedFlag .single, .shipTemplates [{ id := 100 }]]
    ((∀ u ∈ items, u.part ∈ [.equipment, .equipmentTemplates, .airBases, .combined]) ∧
      ∀ u ∈ ships, u.part ∈ [.shipTemplates, .combined]) ∧
    summarize (sortie.applyAll items).1 skirmish = summarize sortie skirmish ∧
    attackTables (sortie.applyAll ships).1 skirmish = attackTables sortie skirmish := by
  intro items ships
  have aboutItems : ∀ u ∈ items,
      u.part ∈ [.equipment, .equipmentTemplates, .airBases, .combined] := by
    decide
  have aboutShips : ∀ u ∈ ships, u.part ∈ [.shipTemplates, .combined] := by decide
  obtain ⟨_, summary, tables⟩ := views_read_their_parts skirmish
  exact ⟨⟨aboutItems, aboutShips⟩, summary sortie items aboutItems, tables sortie ships aboutShips⟩

end Flotilla.Battle
