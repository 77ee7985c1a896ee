import Flotilla.Battle.Planes
import Flotilla.Battle.Written

/-! # Attack tables

Each phase of a battle has a table. Air, torpedo and support phases have a row for
each position attacked, for each side that attacked; shelling phases keep their
attacks one by one. -/
namespace Flotilla.Battle

open Flotilla.Record Flotilla.Store

structure PlaneRef where
  equipmentId : Int64
  templateId : Option Int64
  name : String
deriving DecidableEq

structure ContactPlane where
  side : Side
  templateId : Int64
  name : String
deriving DecidableEq

inductive TableBody where
  /-- A row for each position attacked, for the attacks of either side, with the friendly
  planes that flew and the planes in contact. -/
  | grouped (byFriendly byEnemy : TargetGroups) (planes : List PlaneRef)
      (contacts : List ContactPlane)
  /-- The attacks in order. -/
  | shelling (attacks : List ShellingAttack)
deriving DecidableEq

structure AttackTable where
  segment : SegmentKind
  label : String
  wave : Option Nat
  body : TableBody
deriving DecidableEq

/-- The shown targets of an air strike by position. Every launching ship attacked all of
them, as far as a position is a 64-bit integer; without launching ships they have no
attackers. -/
def groupStrike (s : AirStrike) : TargetGroups :=
  if s.planeFrom.isEmpty then
    s.shownTargets.foldl (fun g e => g.record e.index none e.received) {}
  else
    let struck := s.shownTargets.filterMap fun e => Text.int64OfInt? e.index
    groupAttacks (s.planeFrom.map fun index => ⟨index, struck⟩) (s.targets.map (·.received))

def groupSalvo (s : Salvo) : TargetGroups :=
  groupAttacks s.launchers s.received

/-- Whether a position received damage or a flag. -/
def Received.counts (r : Received) : Bool :=
  0 < r.damage || r.critical.any (0 < ·)

/-- The groups with the targets of a barrage added; a barrage has no attackers. -/
def addBarrage (g : TargetGroups) (b : Barrage) : TargetGroups :=
  (b.targets.zipIdx.filter fun (r, _) => r.counts).foldl (fun g (r, target) => g.merge target r) g

def groupSupport (p : SupportPhase) : TargetGroups :=
  let air := (p.air.map groupStrike).getD {}
  (p.barrage.map (addBarrage air)).getD air

/-- The planes that squadrons took out of a pool. -/
def planeRefs (s : Store) (pool : List PlaneSlot) (squadrons : List Int64) : List PlaneRef :=
  (s.joinEquipmentList (resolvePlanes squadrons pool)).map fun join =>
    ⟨join.equipmentId, join.item.found?.map (·.templateId), join.displayName⟩

def templateName (s : Store) (templateId : Int64) : String :=
  ((s.equipmentTemplates.get? templateId).map (·.name)).getD unknownName

/-- The plane of a side in contact in an air phase. -/
def contact? (s : Store) (p : AirPhase) (side : Side) : Option ContactPlane :=
  ((p.strike side).bind (·.touchPlane)).map fun id => ⟨side, id, templateName s id⟩

/-- The planes that could have flown in an air phase. -/
def airPool (s : Store) (f : Formation) (areaId : Int64) (stage : AirStage)
    (strike : AirStrike) : List PlaneSlot :=
  match stage with
  | .landBase => landBasePool s areaId
  | .opening | .carrierBase => carrierPool s f strike.planeFrom

/-- The friendly planes that flew in an air phase. -/
def airPlanes (s : Store) (f : Formation) (areaId : Int64) (p : AirPhase) : List PlaneRef :=
  match p.friendly with
  | none => []
  | some strike => planeRefs s (airPool s f areaId p.stage strike) strike.squadrons

def tableBody (s : Store) (f : Formation) (areaId : Int64) : Phase → TableBody
  | .air p =>
    .grouped ((p.friendly.map groupStrike).getD {}) ((p.enemy.map groupStrike).getD {})
      (airPlanes s f areaId p) ([Side.friendly, Side.enemy].filterMap (contact? s p))
  | .torpedo p =>
    .grouped ((p.friendly.map groupSalvo).getD {}) ((p.enemy.map groupSalvo).getD {}) [] []
  | .shelling p => .shelling p.attacks
  | .support p => .grouped (groupSupport p) {} [] []

def Phase.wave? : Phase → Option Nat
  | .air p => p.wave
  | _ => none

def attackTables (s : Store) (b : Battle) : List AttackTable :=
  let f := formation s.fleets b.fleetId b.combined
  b.segments.flatMap fun (segment, data) =>
    data.phases.map fun p => ⟨segment, p.label, p.wave?, tableBody s f b.areaId p⟩

def PlaneRef.toJson (p : PlaneRef) : Json :=
  .object [
    ("equipment_id", int64.write p.equipmentId),
    ("template_id", Json.ofOption int64.write p.templateId),
    ("name", .string p.name)]

def ContactPlane.toJson (p : ContactPlane) : Json :=
  .object [
    ("side", .string p.side.name),
    ("template_id", int64.write p.templateId),
    ("name", .string p.name)]

def TableBody.toJson : TableBody → Json
  | .grouped byFriendly byEnemy planes contacts =>
    .object [
      ("layout", .string "grouped"),
      ("by_friendly", byFriendly.toJson),
      ("by_enemy", byEnemy.toJson),
      ("planes", Json.ofList PlaneRef.toJson planes),
      ("contacts", Json.ofList ContactPlane.toJson contacts)]
  | .shelling attacks =>
    .object [
      ("layout", .string "shelling"),
      ("attacks", Json.ofList ShellingAttack.toJson attacks)]

/-- A table as a value; a phase without a wave has no member for it. -/
def AttackTable.toJson (t : AttackTable) : Json :=
  .object (
    [("segment", .string t.segment.name), ("label", .string t.label)]
      ++ (t.wave.map fun n => ("wave", Json.nat n)).toList
      ++ [("body", t.body.toJson)])

end Flotilla.Battle
