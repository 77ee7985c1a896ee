import Flotilla.Store.Basic

/-! # Auditing a store

The references of a store that lead nowhere and the rosters that do not fit their
mode, each with a severity. Nothing here keeps a store from being used. -/
namespace Flotilla.Store

/-- How bad a finding is. -/
inductive Severity where
  | error
  | warning
  | info
deriving DecidableEq, Repr

def Severity.name : Severity → String
  | .error => "error"
  | .warning => "warning"
  | .info => "info"

/-- What is wrong at a place of a store. -/
inductive Finding where
  | rosterTooLong (fleetId : Int64) (length limit : Nat)
  | shipAbsent (fleetId : Int64) (position : Nat) (shipId : Int64)
  | shipRepeated (fleetId : Int64) (position : Nat) (shipId : Int64)
  | shipTemplateAbsent (shipId templateId : Int64)
  | equippedAbsent (shipId equipmentId : Int64)
  | equipmentTemplateAbsent (equipmentId templateId : Int64)
  | squadronAbsent (areaId baseId slotId equipmentId : Int64)
deriving DecidableEq

namespace Finding

def severity : Finding → Severity
  | .shipAbsent .. | .equippedAbsent .. => .error
  | .rosterTooLong .. | .shipRepeated .. | .shipTemplateAbsent ..
  | .equipmentTemplateAbsent .. => .warning
  | .squadronAbsent .. => .info

def at_ (name index : String) : String := name ++ "[" ++ index ++ "]"

def context : Finding → String
  | .rosterTooLong fleet _ _ => at_ "fleet" (Text.ofInt64 fleet)
  | .shipAbsent fleet position _ | .shipRepeated fleet position _ =>
    at_ (at_ "fleet" (Text.ofInt64 fleet) ++ ".ship_ids") (Text.ofNat position)
  | .shipTemplateAbsent ship _ => at_ "ship" (Text.ofInt64 ship)
  | .equippedAbsent ship _ => at_ "ship" (Text.ofInt64 ship) ++ ".slots"
  | .equipmentTemplateAbsent item _ => at_ "equipment" (Text.ofInt64 item)
  | .squadronAbsent area base slot _ =>
    at_ (at_ "air_base" (Text.ofInt64 area ++ ":" ++ Text.ofInt64 base) ++ ".slot")
      (Text.ofInt64 slot)

def message : Finding → String
  | .rosterTooLong _ length limit =>
    Text.ofNat length ++ " slots exceed the " ++ Text.ofNat limit ++ " usable in this mode"
  | .shipAbsent _ _ ship => "ship " ++ Text.ofInt64 ship ++ " not in store"
  | .shipRepeated _ _ ship =>
    "ship " ++ Text.ofInt64 ship ++ " assigned to more than one fleet slot"
  | .shipTemplateAbsent _ template | .equipmentTemplateAbsent _ template =>
    "template " ++ Text.ofInt64 template ++ " not in store"
  | .equippedAbsent _ item => "equipment " ++ Text.ofInt64 item ++ " not in store"
  | .squadronAbsent _ _ _ item => "squadron equipment " ++ Text.ofInt64 item ++ " not in store"

def line (f : Finding) : String :=
  "[" ++ f.severity.name ++ "] " ++ f.context ++ ": " ++ f.message

end Finding

/-- The findings at the positions of a roster, given the ships met before; also gives the
ships met after it. -/
def auditRoster (ships : Table Ship) (fleetId : Int64) :
    List (Int64 × Nat) → List Int64 → List Finding × List Int64
  | [], met => ([], met)
  | (id, position) :: rest, met =>
    if 0 < id then
      let absent := if ships.contains id then [] else [Finding.shipAbsent fleetId position id]
      let repeated := if met.contains id then [Finding.shipRepeated fleetId position id] else []
      let (findings, met) :=
        auditRoster ships fleetId rest (if met.contains id then met else id :: met)
      (absent ++ repeated ++ findings, met)
    else auditRoster ships fleetId rest met

/-- The findings of fleets, given the ships met before. -/
def auditFleets (ships : Table Ship) (mode : CombinedMode) :
    List Fleet → List Int64 → List Finding
  | [], _ => []
  | fleet :: rest, met =>
    let limit := usable mode fleet.id
    let long := if limit < fleet.shipIds.length then
      [Finding.rosterTooLong fleet.id fleet.shipIds.length limit] else []
    let (findings, met) := auditRoster ships fleet.id fleet.shipIds.zipIdx met
    long ++ findings ++ auditFleets ships mode rest met

def auditShip (s : Store) (ship : Ship) : List Finding :=
  (if s.shipTemplates.contains ship.templateId then []
    else [.shipTemplateAbsent ship.id ship.templateId])
  ++ (ship.equipped.filter fun id => !s.equipment.contains id).map (.equippedAbsent ship.id)

def auditEquipment (s : Store) (item : Equipment) : List Finding :=
  if s.equipmentTemplates.contains item.templateId then []
  else [.equipmentTemplateAbsent item.id item.templateId]

def auditAirBase (s : Store) (base : AirBase) : List Finding :=
  (base.squadrons.filter fun q => 0 < q.equipmentId && !s.equipment.contains q.equipmentId).map
    fun q => .squadronAbsent base.areaId base.baseId q.slotId q.equipmentId

/-- The findings of a store: fleets, ships, equipment, air bases. -/
def audit (s : Store) : List Finding :=
  auditFleets s.ships s.combined s.fleets.rows []
    ++ s.ships.rows.flatMap s.auditShip
    ++ s.equipment.rows.flatMap s.auditEquipment
    ++ s.airBases.flatMap s.auditAirBase

def countOf (severity : Severity) (findings : List Finding) : Nat :=
  findings.countP fun f => f.severity == severity

end Flotilla.Store
