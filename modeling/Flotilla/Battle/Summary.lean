import Flotilla.Battle.Record
import Flotilla.Store.Join

/-! # Summaries

The summary of a battle has a row for each position of each side: who stands there,
the hit points at the start and now, and the damage over day and night. A side has
as many rows as its roster or its hit points reach, whichever is more. -/
namespace Flotilla.Battle

open Flotilla.Record Flotilla.Store

/-! ## Losses

The damage that each side takes in a phase and over a segment, by position. A phase without an
attack on a side says nothing about it, which differs from an attack without damage only in how many
positions the series reaches. -/

def AirStrike.damage (s : AirStrike) : List Int64 :=
  s.targets.map (·.damage)

def Salvo.damage (s : Salvo) : List Int64 :=
  s.received.map (·.damage)

def Barrage.damage (b : Barrage) : List Int64 :=
  b.targets.map (·.damage)

/-- The hits on a side in a shelling phase; targets behind the last position of a combined
fleet are left out. -/
def ShellingPhase.hitsOn (p : ShellingPhase) (side : Side) : List TargetHit :=
  ((p.attacks.filter fun a => a.side = side.opponent).flatMap (·.hits)).filter
    fun h => h.target < Store.combinedSize

/-- The damage of hits, up to the last position hit. -/
def damageOf (hits : List TargetHit) : List Int64 :=
  let reach := (hits.map fun h => h.target + 1).foldl max 0
  (List.range reach).map fun p =>
    sumCapped ((hits.filter fun h => h.target == p).map (·.damage))

/-- The damage to a side in a shelling phase. -/
def ShellingPhase.damageTo (p : ShellingPhase) (side : Side) : Option (List Int64) :=
  match p.hitsOn side with
  | [] => none
  | hits => some (damageOf hits)

def SupportPhase.damage (p : SupportPhase) : List Int64 :=
  accumulate [(p.air.map AirStrike.damage).getD [], (p.barrage.map Barrage.damage).getD []]

/-- The damage to a side in a phase, if the phase has an attack on it. -/
def Phase.damageTo (side : Side) : Phase → Option (List Int64)
  | .air p => (p.strike side.opponent).map AirStrike.damage
  | .torpedo p => (p.salvo side.opponent).map Salvo.damage
  | .shelling p => p.damageTo side
  | .support p => side.pick none (some p.damage)

/-- A series with positions without damage added up to a number of positions. -/
def padded (size : Nat) (series : List Int64) : List Int64 :=
  series ++ List.replicate (size - series.length) 0

/-- The damage to a side over a segment; it reaches all positions with known hit points. -/
def Segment.damageTaken (s : Segment) (side : Side) : List Int64 :=
  padded (s.side side).nowHps.length (accumulate (s.phases.filterMap (Phase.damageTo side)))

/-- The ledger of a side over a segment, if the segment gives its hit points. -/
def Segment.ledger? (s : Segment) (side : Side) : Option Ledger :=
  (s.side side).start?.map fun start => ⟨start, s.damageTaken side⟩

/-! ## Rows -/

/-- One position of a side in a battle. The ship is an instance on the friendly side and a
template on the enemy side. -/
structure CombatantRow where
  position : Nat
  shipId : Option Int64
  name : String
  level : Option Int64
  startHp : Option Int64
  nowHp : Option Int64
  maxHp : Option Int64
  damage : Int64
  escaped : Bool
deriving DecidableEq

structure SideSummary where
  main : List CombatantRow
  escort : List CombatantRow
  hpSource : HpSource
deriving DecidableEq

/-- All rows, the main fleet first. -/
def SideSummary.rows (s : SideSummary) : List CombatantRow := s.main ++ s.escort

def SideSummary.totalDamage (s : SideSummary) : Int64 :=
  sumCapped (s.rows.map (·.damage))

structure Summary where
  battleId : String
  fleetId : Int64
  combined : Bool
  friendly : SideSummary
  enemy : SideSummary
deriving DecidableEq

/-- Who stands at a position. The greatest hit points are those known from the store. -/
structure Identity where
  shipId : Option Int64 := none
  name : String := unknownName
  level : Option Int64 := none
  maxHp : Option Int64 := none

/-- Who stands at a position of the friendly fleet. -/
def friendlyIdentity (s : Store) (f : Formation) (position : Nat) : Identity :=
  match f.shipAt position with
  | none => {}
  | some id =>
    let join := s.joinShip id
    { shipId := some id
      name := join.displayName
      level := join.ship.found?.map (·.level)
      maxHp := join.ship.found?.map (·.maxHp) }

/-- Who stands at a position of the enemy fleet. -/
def enemyIdentity (s : Store) (b : Battle) (position : Nat) : Identity :=
  match b.enemy.shipAt position with
  | none => {}
  | some id =>
    let template := s.shipTemplates.get? id
    { shipId := some id
      name := (template.map (·.name)).getD unknownName
      level := b.enemy.levels[position]?
      maxHp := (template.map (·.maxHp)).filter (0 < ·) }

def sideReach (segments : List Segment) (side : Side) (roster : Nat) : Nat :=
  (segments.map fun s => (s.side side).nowHps.length).foldl max roster

def damageAcross (segments : List Segment) (side : Side) (position : Nat) : Int64 :=
  sumCapped (segments.filterMap fun s => (s.damageTaken side)[position]?)

/-- The row of a position. Hit points come from the first segment that gives them. -/
def combatantRow (segments : List Segment) (side : Side) (hp : Reconciled)
    (identity : Nat → Identity) (position : Nat) : CombatantRow :=
  let who := identity position
  { position
    shipId := who.shipId
    name := who.name
    level := who.level
    startHp := segments.findSome? fun s => (s.side side).nowHps[position]?
    nowHp := hp.get position
    maxHp := (segments.findSome? fun s => (s.side side).maxHps[position]?).or who.maxHp
    damage := damageAcross segments side position
    escaped := segments.any fun s => (s.side side).escaped.contains position }

/-- The summary of a side, given the length of its roster and who stands where. -/
def summarizeSide (b : Battle) (side : Side) (roster : Nat) (identity : Nat → Identity) :
    SideSummary :=
  let segments := b.segments.map (·.2)
  let hp := reconcileLedgers (b.day.bind (·.ledger? side)) (b.night.bind (·.ledger? side))
  let rows := (List.range (sideReach segments side roster)).map
    (combatantRow segments side hp identity)
  ⟨rows.filter (·.position < fleetSize), rows.filter (fleetSize ≤ ·.position), hp.source⟩

def summarize (s : Store) (b : Battle) : Summary :=
  let f := formation s.fleets b.fleetId b.combined
  { battleId := b.id
    fleetId := f.fleetId
    combined := f.combined
    friendly := summarizeSide b .friendly f.size (friendlyIdentity s f)
    enemy := summarizeSide b .enemy b.enemy.shipIds.length (enemyIdentity s b) }

def CombatantRow.toJson (r : CombatantRow) : Json :=
  .object [
    ("position", .nat r.position),
    ("ship_id", Json.ofOption int64.write r.shipId),
    ("name", .string r.name),
    ("level", Json.ofOption int64.write r.level),
    ("start_hp", Json.ofOption int64.write r.startHp),
    ("now_hp", Json.ofOption int64.write r.nowHp),
    ("max_hp", Json.ofOption int64.write r.maxHp),
    ("damage", int64.write r.damage),
    ("escaped", .bool r.escaped)]

def SideSummary.toJson (s : SideSummary) : Json :=
  .object [
    ("main", Json.ofList CombatantRow.toJson s.main),
    ("escort", Json.ofList CombatantRow.toJson s.escort),
    ("hp_source", .string s.hpSource.name)]

def Summary.toJson (s : Summary) : Json :=
  .object [
    ("battle_id", .string s.battleId),
    ("fleet_id", int64.write s.fleetId),
    ("combined", .bool s.combined),
    ("friendly", s.friendly.toJson),
    ("enemy", s.enemy.toJson)]

end Flotilla.Battle
