import Flotilla.Battle.Record
import Flotilla.Files
import Flotilla.Record.Variant
import Flotilla.Text.Basic

/-! # The battle feed

The feed gives what happened at the positions of a side as lists side by side, one
for each kind of fact. Reading a battle turns them into one entry for each position,
so nothing else has to keep the lists in step. A list may be too short: an absent
element is no damage, no flag, or an unknown hit point. -/
namespace Flotilla.Battle

open Flotilla.Record

/-! ## Lists of an air strike -/

/-- An air strike as the feed gives it. -/
structure StrikeLists where
  touchPlane : Int64 := 0
  planeFrom : List Int64 := []
  squadrons : List Int64 := []
  nowHps : List Int64 := []
  damage : List Float := []
  bombing : List Int64 := []
  torpedo : List Int64 := []
  shielding : List Int64 := []
  critical : List Int64 := []

def flagged (flags : List Int64) (position : Nat) : Bool :=
  flags[position]?.any (0 < ·)

def damageAt (damage : List Float) (position : Nat) : Damage :=
  decodeDamage (damage.getD position 0.0)

namespace StrikeLists

/-- The number of positions that the lists reach. Shielding alone reaches none. -/
def size (l : StrikeLists) : Nat :=
  [l.nowHps.length, l.damage.length, l.bombing.length, l.torpedo.length,
    l.critical.length].foldl max 0

def entry (l : StrikeLists) (position : Nat) : StrikeEntry :=
  let damage := damageAt l.damage position
  { index := position
    nowHp := l.nowHps[position]?
    damage := damage.amount
    bombed := flagged l.bombing position
    torpedoed := flagged l.torpedo position
    shielded := damage.shielded || flagged l.shielding position
    hit := classify (some damage.amount) l.critical[position]? }

def decode (l : StrikeLists) : AirStrike :=
  { touchPlane := Store.occupant l.touchPlane
    planeFrom := l.planeFrom.filterMap position?
    squadrons := l.squadrons
    targets := (List.range l.size).map l.entry }

def layout : Layout StrikeLists :=
  ⟨"struct RawAirStrike", {},
    [.default "touch_plane" readInt64 fun v l => { l with touchPlane := v },
     .default "plane_from" (readList readInt64) fun v l => { l with planeFrom := v },
     .default "squadrons" (readList readInt64) fun v l => { l with squadrons := v },
     .default "now_hps" (readList readInt64) fun v l => { l with nowHps := v },
     .default "total_damages" (readList readReal) fun v l => { l with damage := v },
     .default "bak_flag" (readList readInt64) fun v l => { l with bombing := v },
     .default "rai_flag" (readList readInt64) fun v l => { l with torpedo := v },
     .default "protect_flag" (readList readInt64) fun v l => { l with shielding := v },
     .default "critical_flags" (readList readInt64) fun v l => { l with critical := v }]⟩

end StrikeLists

def AirStrike.read : Reader AirStrike := fun n =>
  (StrikeLists.layout.read n).map (·.decode)

/-! ## Lists of a torpedo salvo -/

structure SalvoLists where
  targets : List (List Int64) := []
  damage : List Float := []
  critical : List Int64 := []

def receivedAt (damage : List Float) (critical : List Int64) (position : Nat) : Received :=
  let d := damageAt damage position
  ⟨d.amount, critical[position]?, d.shielded⟩

def SalvoLists.decode (l : SalvoLists) : Salvo :=
  { launchers := l.targets.zipIdx.map fun (targets, index) => ⟨index, targets⟩
    received := (List.range (max l.damage.length l.critical.length)).map
      (receivedAt l.damage l.critical) }

/-- Reads the targets of a launcher: one position, or a list of them. -/
def readTargets : Reader (List Int64) := fun n =>
  match readInt64 n with
  | .ok target => .ok [target]
  | .error _ =>
    match readList readInt64 n with
    | .ok targets => .ok targets
    | .error _ => .error (.noForm "TargetList")

/-- The layout of a torpedo salvo. A launcher without targets may be null. -/
def SalvoLists.layout : Layout SalvoLists :=
  ⟨"struct RawSalvo", {},
    [.default "targets" (readList fun n => (readOption readTargets n).map (·.getD []))
       fun v l => { l with targets := v },
     .default "damage" (readList readReal) fun v l => { l with damage := v },
     .default "critical" (readList readInt64) fun v l => { l with critical := v }]⟩

def Salvo.read : Reader Salvo := fun n =>
  (SalvoLists.layout.read n).map (·.decode)

/-! ## Lists of a shelling attack -/

/-- A shelling attack as the feed gives it: each place of the lists is one hit. -/
structure AttackLists where
  side : Side := .friendly
  attacker : Nat := 0
  attackType : Int64 := 0
  targets : List Int64 := []
  damage : List Float := []
  critical : List Int64 := []

/-- The hit at a place of the lists; a target below zero is no hit. -/
def AttackLists.hit? (l : AttackLists) (target : Int64) (place : Nat) : Option TargetHit :=
  (position? target).map fun target =>
    let damage := damageAt l.damage place
    { target
      damage := damage.amount
      critical := l.critical[place]?
      shielded := damage.shielded
      hit := classify (some damage.amount) l.critical[place]? }

def AttackLists.decode (l : AttackLists) : ShellingAttack :=
  ⟨l.side, l.attacker, l.attackType,
    l.targets.zipIdx.filterMap fun (target, place) => l.hit? target place⟩

def Side.known : List (String × Side) :=
  [Side.friendly, Side.enemy].map fun s => (s.name, s)

def AttackLists.layout : Layout AttackLists :=
  ⟨"struct RawShellingAttack", {},
    [.needs "side" (readName Side.known) fun v l => { l with side := v },
     .needs "attacker" readPosition fun v l => { l with attacker := v },
     .default "attack_type" readInt64 fun v l => { l with attackType := v },
     .default "targets" (readList readInt64) fun v l => { l with targets := v },
     .default "damage" (readList readReal) fun v l => { l with damage := v },
     .default "critical" (readList readInt64) fun v l => { l with critical := v }]⟩

def ShellingAttack.read : Reader ShellingAttack := fun n =>
  (AttackLists.layout.read n).map (·.decode)

/-! ## Lists of a barrage -/

structure BarrageLists where
  damage : List Float := []
  critical : List Int64 := []

/-- The barrage that the lists describe: a position for each damage value. -/
def BarrageLists.decode (l : BarrageLists) : Barrage :=
  ⟨(List.range l.damage.length).map (receivedAt l.damage l.critical)⟩

def BarrageLists.layout : Layout BarrageLists :=
  ⟨"struct RawBarrage", {},
    [.default "damage" (readList readReal) fun v l => { l with damage := v },
     .default "critical" (readList readInt64) fun v l => { l with critical := v }]⟩

def Barrage.read : Reader Barrage := fun n =>
  (BarrageLists.layout.read n).map (·.decode)

/-! ## Phases -/

def AirStage.name : AirStage → String
  | .opening => "opening"
  | .landBase => "land_base"
  | .carrierBase => "carrier_base"

def AirStage.known : List (String × AirStage) :=
  [AirStage.opening, AirStage.landBase, AirStage.carrierBase].map fun s => (s.name, s)

def TorpedoStage.name : TorpedoStage → String
  | .opening => "opening"
  | .closing => "closing"

def TorpedoStage.known : List (String × TorpedoStage) :=
  [TorpedoStage.opening, TorpedoStage.closing].map fun s => (s.name, s)

def ShellingStage.name : ShellingStage → String
  | .openingAsw => "opening_asw"
  | .first => "first"
  | .second => "second"
  | .third => "third"
  | .night => "night"

def ShellingStage.known : List (String × ShellingStage) :=
  [ShellingStage.openingAsw, ShellingStage.first, ShellingStage.second, ShellingStage.third,
    ShellingStage.night].map fun s => (s.name, s)

def AirPhase.layout : Layout AirPhase :=
  ⟨"struct AirPhase", {},
    [.needs "stage" (readName AirStage.known) fun v p => { p with stage := v },
     .default "wave" (readOption readNat32) fun v p => { p with wave := v },
     .default "friendly" (readOption AirStrike.read) fun v p => { p with friendly := v },
     .default "enemy" (readOption AirStrike.read) fun v p => { p with enemy := v }]⟩

def TorpedoPhase.layout : Layout TorpedoPhase :=
  ⟨"struct TorpedoPhase", {},
    [.needs "stage" (readName TorpedoStage.known) fun v p => { p with stage := v },
     .default "friendly" (readOption Salvo.read) fun v p => { p with friendly := v },
     .default "enemy" (readOption Salvo.read) fun v p => { p with enemy := v }]⟩

def ShellingPhase.layout : Layout ShellingPhase :=
  ⟨"struct ShellingPhase", {},
    [.needs "stage" (readName ShellingStage.known) fun v p => { p with stage := v },
     .default "attacks" (readList ShellingAttack.read) fun v p => { p with attacks := v }]⟩

def SupportPhase.layout : Layout SupportPhase :=
  ⟨"struct SupportPhase", {},
    [.default "air" (readOption AirStrike.read) fun v p => { p with air := v },
     .default "barrage" (readOption Barrage.read) fun v p => { p with barrage := v }]⟩

inductive PhaseKind where
  | air
  | torpedo
  | shelling
  | support
deriving DecidableEq

def PhaseKind.name : PhaseKind → String
  | .air => "air"
  | .torpedo => "torpedo"
  | .shelling => "shelling"
  | .support => "support"

def PhaseKind.known : List (String × PhaseKind) :=
  [PhaseKind.air, PhaseKind.torpedo, PhaseKind.shelling, PhaseKind.support].map
    fun k => (k.name, k)

def PhaseKind.tag : String := "kind"

/-- The room for lists and objects in a phase, which itself stands in a list of a segment
of a battle. -/
def phaseRoom : Nat := Json.greatestDepth - 3

/-- Reads the content of a phase of a kind. -/
def Phase.ofContent (content : Json) : PhaseKind → Reading Phase
  | .air => (AirPhase.layout.read content.node).map .air
  | .torpedo => (TorpedoPhase.layout.read content.node).map .torpedo
  | .shelling => (ShellingPhase.layout.read content.node).map .shelling
  | .support => (SupportPhase.layout.read content.node).map .support

/-- Reads a phase, told by its tag. -/
def Phase.read : Reader Phase := fun n =>
  match takeTagged PhaseKind.tag "Phase" PhaseKind.known phaseRoom n with
  | .error e => .error e
  | .ok (kind, content) => Phase.ofContent content kind

/-! ## Battles -/

/-- The layout of the hit points of a side. -/
def SideHp.layout : Layout SideHp :=
  ⟨"struct SideHp", {},
    [.default "now_hps" (readList readInt64) fun v s => { s with nowHps := v },
     .default "max_hps" (readList readInt64) fun v s => { s with maxHps := v },
     .default "escaped" (readList readPosition) fun v s => { s with escaped := v }]⟩

def Segment.layout : Layout Segment :=
  ⟨"struct BattleSegment", {},
    [.default "friendly" SideHp.layout.read fun v s => { s with friendly := v },
     .default "enemy" SideHp.layout.read fun v s => { s with enemy := v },
     .default "phases" (readList Phase.read) fun v s => { s with phases := v }]⟩

def EnemyFleet.layout : Layout EnemyFleet :=
  ⟨"struct EnemyFleet", {},
    [.default "ship_ids" (readList readInt64) fun v f => { f with shipIds := v },
     .default "levels" (readList readInt64) fun v f => { f with levels := v }]⟩

def layout : Layout Battle :=
  ⟨"struct BattleRecord", {},
    [.needs "id" readText fun v b => { b with id := v },
     .default "area_id" readInt64 fun v b => { b with areaId := v },
     .default "map_id" readInt64 fun v b => { b with mapId := v },
     .default "cell_id" readInt64 fun v b => { b with cellId := v },
     .default "fleet_id" readInt64 fun v b => { b with fleetId := v },
     .default "combined" Store.CombinedMode.codec.read fun v b => { b with combined := v },
     .default "enemy" EnemyFleet.layout.read fun v b => { b with enemy := v },
     .default "day" (readOption Segment.layout.read) fun v b => { b with day := v },
     .default "night" (readOption Segment.layout.read) fun v b => { b with night := v }]⟩

inductive FeedError where
  | unreadable (cause : ReadError)
  | blankId
deriving DecidableEq

def FeedError.message : FeedError → String
  | .unreadable cause => "invalid battle record: " ++ cause.message
  | .blankId => "battle record has an empty id"

/-- Reads a battle. Its id must not be blank. -/
def ofText (text : String) : Except FeedError Battle :=
  match readText? layout.read text with
  | .error e => .error (.unreadable e)
  | .ok b => if Text.blank b.id then .error .blankId else .ok b

/-! ## Battle files

A directory is read for what it holds: files that are not named as battles, and those that hold
none, are passed over. -/

inductive FileFeedError where
  | unreadable (path : String) (cause : FileError)
  | refused (cause : FeedError)
deriving DecidableEq

def FileFeedError.message : FileFeedError → String
  | .unreadable path cause =>
    "could not read battle file " ++ path ++ ": " ++ cause.message
  | .refused cause => cause.message

def load (files : Files) (path : String) : Except FileFeedError Battle :=
  match files.read path with
  | .error e => .error (.unreadable path e)
  | .ok text =>
    match ofText text with
    | .error e => .error (.refused e)
    | .ok b => .ok b

def battleEnding : List Char := ['j', 's', 'o', 'n']

/-- The battle of an entry of a directory, if its name and content are those of one. -/
def ofFile? (name : String) (entry : Entry) : Option Battle :=
  if fileEnding? name = some battleEnding then
    match Files.textOf entry with
    | .error _ => none
    | .ok text => (ofText text).toOption
  else none

/-- The battles in the directory at a path, in order of file name; none when there is no
such directory. -/
def loadAll (files : Files) (path : String) : List Battle :=
  match files.list path with
  | .error _ => []
  | .ok entries => entries.filterMap fun (name, entry) => ofFile? name entry

end Flotilla.Battle
