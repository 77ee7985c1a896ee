import Flotilla.Battle.HitPoints
import Flotilla.Battle.Targets

/-! # Battle records

A battle has a day and a night segment, either of which may be absent. A segment
gives the hit points of both sides and the phases fought in it. Positions 0 to 5
are the main fleet and 6 to 11 the escort, on both sides. -/
namespace Flotilla.Battle

open Flotilla.Store (CombinedMode)

inductive Side where
  | friendly
  | enemy
deriving DecidableEq, Repr, Inhabited

def Side.name : Side → String
  | .friendly => "friendly"
  | .enemy => "enemy"

def Side.opponent : Side → Side
  | .friendly => .enemy
  | .enemy => .friendly

def Side.pick (friendly enemy : α) : Side → α
  | .friendly => friendly
  | .enemy => enemy

inductive SegmentKind where
  | day
  | night
deriving DecidableEq, Repr

def SegmentKind.name : SegmentKind → String
  | .day => "day"
  | .night => "night"

/-- The outcome of an air strike at one position. -/
structure StrikeEntry where
  index : Nat
  nowHp : Option Int64
  damage : Int64
  bombed : Bool
  torpedoed : Bool
  shielded : Bool
  hit : Hit
deriving DecidableEq

namespace StrikeEntry

/-- A position is shown as attacked only when a bombing or torpedo flag marks it. -/
def shown (e : StrikeEntry) : Bool := e.bombed || e.torpedoed

def received (e : StrikeEntry) : Received :=
  { damage := e.damage
    critical := match e.hit with
      | .critical => some criticalFlag
      | .normal => some normalFlag
      | .miss => none
    shielded := e.shielded }

end StrikeEntry

structure AirStrike where
  /-- The template of the plane in contact, if any. -/
  touchPlane : Option Int64
  /-- The positions of the launching ships. -/
  planeFrom : List Nat
  /-- The templates of the squadrons that flew. -/
  squadrons : List Int64
  /-- The outcome at each position of the other side. -/
  targets : List StrikeEntry
deriving DecidableEq

def AirStrike.shownTargets (s : AirStrike) : List StrikeEntry :=
  s.targets.filter (·.shown)

structure Salvo where
  launchers : List Launcher
  received : List Received
deriving DecidableEq

structure TargetHit where
  target : Nat
  damage : Int64
  critical : Option Int64
  shielded : Bool
  hit : Hit
deriving DecidableEq

/-- An attack by one ship. -/
structure ShellingAttack where
  side : Side
  attacker : Nat
  attackType : Int64
  hits : List TargetHit
deriving DecidableEq

/-- A support barrage: what each enemy position received. -/
structure Barrage where
  targets : List Received
deriving DecidableEq

inductive AirStage where
  | opening
  | landBase
  | carrierBase
deriving DecidableEq, Repr, Inhabited

inductive TorpedoStage where
  | opening
  | closing
deriving DecidableEq, Repr, Inhabited

inductive ShellingStage where
  | openingAsw
  | first
  | second
  | third
  | night
deriving DecidableEq, Repr, Inhabited

/-- An air phase: the strikes of both sides. -/
structure AirPhase where
  stage : AirStage := .opening
  wave : Option Nat := none
  friendly : Option AirStrike := none
  enemy : Option AirStrike := none
deriving DecidableEq

/-- A torpedo phase: the salvos of both sides. -/
structure TorpedoPhase where
  stage : TorpedoStage := .opening
  friendly : Option Salvo := none
  enemy : Option Salvo := none
deriving DecidableEq

/-- A shelling phase: the attacks of both sides in order. -/
structure ShellingPhase where
  stage : ShellingStage := .openingAsw
  attacks : List ShellingAttack := []
deriving DecidableEq

structure SupportPhase where
  air : Option AirStrike := none
  barrage : Option Barrage := none
deriving DecidableEq

inductive Phase where
  | air (phase : AirPhase)
  | torpedo (phase : TorpedoPhase)
  | shelling (phase : ShellingPhase)
  | support (phase : SupportPhase)
deriving DecidableEq

def AirPhase.strike (p : AirPhase) (by_ : Side) : Option AirStrike :=
  by_.pick p.friendly p.enemy

def TorpedoPhase.salvo (p : TorpedoPhase) (by_ : Side) : Option Salvo :=
  by_.pick p.friendly p.enemy

def Phase.label : Phase → String
  | .air p => match p.stage with
    | .opening => "opening_air"
    | .landBase => "land_base_air"
    | .carrierBase => "carrier_base_air"
  | .torpedo p => match p.stage with
    | .opening => "opening_torpedo"
    | .closing => "closing_torpedo"
  | .shelling p => match p.stage with
    | .openingAsw => "opening_asw"
    | .first => "shelling_1"
    | .second => "shelling_2"
    | .third => "shelling_3"
    | .night => "night_shelling"
  | .support _ => "support"

/-- The hit points of a side at the start of a segment. -/
structure SideHp where
  nowHps : List Int64 := []
  maxHps : List Int64 := []
  /-- The positions that retreated before the segment. -/
  escaped : List Nat := []
deriving DecidableEq, Inhabited

/-- The hit points at the start, if the segment gives any. -/
def SideHp.start? (s : SideHp) : Option (List Int64) :=
  if s.nowHps.isEmpty then none else some s.nowHps

structure Segment where
  friendly : SideHp := {}
  enemy : SideHp := {}
  phases : List Phase := []
deriving DecidableEq, Inhabited

def Segment.side (s : Segment) (side : Side) : SideHp :=
  side.pick s.friendly s.enemy

/-- The enemy ships: templates and levels by position. -/
structure EnemyFleet where
  shipIds : List Int64 := []
  levels : List Int64 := []
deriving DecidableEq, Inhabited

/-- The template of the enemy ship at a position. -/
def EnemyFleet.shipAt (f : EnemyFleet) (position : Nat) : Option Int64 :=
  f.shipIds[position]?.bind Store.occupant

end Battle

open Battle

structure Battle where
  id : String := ""
  areaId : Int64 := 0
  mapId : Int64 := 0
  cellId : Int64 := 0
  fleetId : Int64 := 1
  combined : Store.CombinedMode := .single
  enemy : EnemyFleet := {}
  day : Option Segment := none
  night : Option Segment := none
deriving DecidableEq, Inhabited

def Battle.segments (b : Battle) : List (SegmentKind × Segment) :=
  (b.day.map fun s => (SegmentKind.day, s)).toList
    ++ (b.night.map fun s => (SegmentKind.night, s)).toList

end Flotilla
