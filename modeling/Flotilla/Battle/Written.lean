import Flotilla.Battle.Feed

/-! # The written form of a battle

A battle as a value, in the form into which the feed was decoded: one object for
each position instead of lists side by side. -/
namespace Flotilla.Battle

open Flotilla.Record

def StrikeEntry.toJson (e : StrikeEntry) : Json :=
  .object [
    ("index", .nat e.index),
    ("now_hp", Json.ofOption int64.write e.nowHp),
    ("damage", int64.write e.damage),
    ("bombed", .bool e.bombed),
    ("torpedoed", .bool e.torpedoed),
    ("protected", .bool e.shielded),
    ("hit", .string e.hit.name)]

def AirStrike.toJson (s : AirStrike) : Json :=
  .object [
    ("touch_plane", Json.ofOption int64.write s.touchPlane),
    ("plane_from", Json.ofList .nat s.planeFrom),
    ("squadrons", int64.list.write s.squadrons),
    ("targets", Json.ofList StrikeEntry.toJson s.targets)]

def Launcher.toJson (l : Launcher) : Json :=
  .object [("index", .nat l.index), ("targets", int64.list.write l.targets)]

def Salvo.toJson (s : Salvo) : Json :=
  .object [
    ("launchers", Json.ofList Launcher.toJson s.launchers),
    ("received", Json.ofList Received.toJson s.received)]

def TargetHit.toJson (h : TargetHit) : Json :=
  .object [
    ("target", .nat h.target),
    ("damage", int64.write h.damage),
    ("critical", Json.ofOption int64.write h.critical),
    ("protected", .bool h.shielded),
    ("hit", .string h.hit.name)]

def ShellingAttack.toJson (a : ShellingAttack) : Json :=
  .object [
    ("side", .string a.side.name),
    ("attacker", .nat a.attacker),
    ("attack_type", int64.write a.attackType),
    ("hits", Json.ofList TargetHit.toJson a.hits)]

def Barrage.toJson (b : Barrage) : Json :=
  .object [("targets", Json.ofList Received.toJson b.targets)]

def Phase.kind : Phase → PhaseKind
  | .air _ => .air
  | .torpedo _ => .torpedo
  | .shelling _ => .shelling
  | .support _ => .support

def Phase.members : Phase → Json.Members
  | .air p =>
    [("stage", .string p.stage.name), ("wave", Json.ofOption .nat p.wave),
     ("friendly", Json.ofOption AirStrike.toJson p.friendly),
     ("enemy", Json.ofOption AirStrike.toJson p.enemy)]
  | .torpedo p =>
    [("stage", .string p.stage.name),
     ("friendly", Json.ofOption Salvo.toJson p.friendly),
     ("enemy", Json.ofOption Salvo.toJson p.enemy)]
  | .shelling p =>
    [("stage", .string p.stage.name), ("attacks", Json.ofList ShellingAttack.toJson p.attacks)]
  | .support p =>
    [("air", Json.ofOption AirStrike.toJson p.air),
     ("barrage", Json.ofOption Barrage.toJson p.barrage)]

/-- A phase as a value, its kind in front. -/
def Phase.toJson (p : Phase) : Json :=
  .object ((PhaseKind.tag, .string p.kind.name) :: p.members)

def SideHp.toJson (s : SideHp) : Json :=
  .object [
    ("now_hps", int64.list.write s.nowHps),
    ("max_hps", int64.list.write s.maxHps),
    ("escaped", Json.ofList .nat s.escaped)]

def Segment.toJson (s : Segment) : Json :=
  .object [
    ("friendly", s.friendly.toJson),
    ("enemy", s.enemy.toJson),
    ("phases", Json.ofList Phase.toJson s.phases)]

def EnemyFleet.toJson (f : EnemyFleet) : Json :=
  .object [("ship_ids", int64.list.write f.shipIds), ("levels", int64.list.write f.levels)]

def toJson (b : Battle) : Json :=
  .object [
    ("id", .string b.id),
    ("area_id", int64.write b.areaId),
    ("map_id", int64.write b.mapId),
    ("cell_id", int64.write b.cellId),
    ("fleet_id", int64.write b.fleetId),
    ("combined", Store.CombinedMode.codec.write b.combined),
    ("enemy", b.enemy.toJson),
    ("day", Json.ofOption Segment.toJson b.day),
    ("night", Json.ofOption Segment.toJson b.night)]

end Flotilla.Battle
