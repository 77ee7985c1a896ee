import Flotilla.Record.Layout
import Flotilla.Store.Table

/-! # Ships

A ship of the player refers to its template, the data shared by all ships of its
kind, and to the equipment in its slots. A slot with an id of zero or below is
empty. -/
namespace Flotilla.Store

open Flotilla.Record

/-- A statistic: its effective value, equipment included, and its base value. -/
structure Stat where
  effective : Int64 := 0
  base : Int64 := 0
deriving DecidableEq, Inhabited

/-- How a refusal names the form of a statistic. -/
def Stat.form : String := "an array of length 2"

/-- Reads a statistic from a list of two integers. -/
def Stat.read : Reader Stat
  | .list elements last =>
    readPlaces Stat.form 0 elements.length last
      [.needs "effective" readInt64 fun v s => { s with effective := v },
       .needs "base" readInt64 fun v s => { s with base := v }]
      elements {}
  | n => mismatch Stat.form n

def Stat.codec : Codec Stat :=
  ⟨Stat.read, fun s => .list [int64.write s.effective, int64.write s.base]⟩

structure Ship where
  id : Int64 := 0
  templateId : Int64 := 0
  level : Int64 := 0
  nowHp : Int64 := 0
  maxHp : Int64 := 0
  firepower : Stat := {}
  torpedo : Stat := {}
  antiAir : Stat := {}
  armor : Stat := {}
  evasion : Stat := {}
  antiSub : Stat := {}
  lineOfSight : Stat := {}
  luck : Stat := {}
  slots : List Int64 := []
  expansionSlot : Int64 := 0
  aircraft : List Int64 := []
  condition : Int64 := 49
deriving DecidableEq, Inhabited

instance : Keyed Ship := ⟨Ship.id⟩

/-- The occupied slots of a ship, the expansion slot last. -/
def Ship.equipped (s : Ship) : List Int64 :=
  (s.slots ++ [s.expansionSlot]).filter (0 < ·)

def Ship.columns : List (Column Ship) :=
  [.needs "id" int64 (·.id) fun v s => { s with id := v },
   .needs "template_id" int64 (·.templateId) fun v s => { s with templateId := v },
   .default "level" int64 (·.level) fun v s => { s with level := v },
   .needs "now_hp" int64 (·.nowHp) fun v s => { s with nowHp := v },
   .needs "max_hp" int64 (·.maxHp) fun v s => { s with maxHp := v },
   .default "firepower" Stat.codec (·.firepower) fun v s => { s with firepower := v },
   .default "torpedo" Stat.codec (·.torpedo) fun v s => { s with torpedo := v },
   .default "anti_air" Stat.codec (·.antiAir) fun v s => { s with antiAir := v },
   .default "armor" Stat.codec (·.armor) fun v s => { s with armor := v },
   .default "evasion" Stat.codec (·.evasion) fun v s => { s with evasion := v },
   .default "anti_sub" Stat.codec (·.antiSub) fun v s => { s with antiSub := v },
   .default "line_of_sight" Stat.codec (·.lineOfSight) fun v s => { s with lineOfSight := v },
   .default "luck" Stat.codec (·.luck) fun v s => { s with luck := v },
   .default "slots" int64.list (·.slots) fun v s => { s with slots := v },
   .default "expansion_slot" int64 (·.expansionSlot) fun v s => { s with expansionSlot := v },
   .default "aircraft" int64.list (·.aircraft) fun v s => { s with aircraft := v },
   .default "condition" int64 (·.condition) fun v s => { s with condition := v }]

def Ship.codec : Codec Ship := codecOf "struct ShipInstance" {} Ship.columns

/-- The data shared by all ships of a kind. -/
structure ShipTemplate where
  id : Int64 := 0
  name : String := ""
  className : String := ""
  shipType : Int64 := 0
  maxHp : Int64 := 0
  slotCount : UInt64 := 0
  aircraftCapacity : List Int64 := []
deriving DecidableEq, Inhabited

instance : Keyed ShipTemplate := ⟨ShipTemplate.id⟩

def ShipTemplate.columns : List (Column ShipTemplate) :=
  [.needs "id" int64 (·.id) fun v s => { s with id := v },
   .needs "name" text (·.name) fun v s => { s with name := v },
   .default "class_name" text (·.className) fun v s => { s with className := v },
   .default "ship_type" int64 (·.shipType) fun v s => { s with shipType := v },
   .default "max_hp" int64 (·.maxHp) fun v s => { s with maxHp := v },
   .default "slot_count" count (·.slotCount) fun v s => { s with slotCount := v },
   .default "aircraft_capacity" int64.list (·.aircraftCapacity)
     fun v s => { s with aircraftCapacity := v }]

def ShipTemplate.codec : Codec ShipTemplate :=
  codecOf "struct ShipTemplate" {} ShipTemplate.columns

end Flotilla.Store
