import Flotilla.Record.Layout
import Flotilla.Store.Table

/-! # Equipment

An item of equipment refers to its template. The third entry of a template's
category is its kind; some kinds are aircraft. -/
namespace Flotilla.Store

open Flotilla.Record

structure Equipment where
  id : Int64 := 0
  templateId : Int64 := 0
  improvement : Int64 := 0
  proficiency : Option Int64 := none
  aircraft : Option Int64 := none
  locked : Bool := false
deriving DecidableEq, Inhabited

instance : Keyed Equipment := ⟨Equipment.id⟩

def Equipment.columns : List (Column Equipment) :=
  [.needs "id" int64 (·.id) fun v s => { s with id := v },
   .needs "template_id" int64 (·.templateId) fun v s => { s with templateId := v },
   .default "improvement" int64 (·.improvement) fun v s => { s with improvement := v },
   .default "proficiency" int64.option (·.proficiency) fun v s => { s with proficiency := v },
   .default "aircraft" int64.option (·.aircraft) fun v s => { s with aircraft := v },
   .default "locked" bool (·.locked) fun v s => { s with locked := v }]

def Equipment.codec : Codec Equipment :=
  codecOf "struct EquipmentInstance" {} Equipment.columns

/-- The data shared by all items of a kind. -/
structure EquipmentTemplate where
  id : Int64 := 0
  name : String := ""
  category : List Int64 := []
  firepower : Int64 := 0
  torpedo : Int64 := 0
  bombing : Int64 := 0
  antiAir : Int64 := 0
  armor : Int64 := 0
  lineOfSight : Int64 := 0
deriving DecidableEq, Inhabited

instance : Keyed EquipmentTemplate := ⟨EquipmentTemplate.id⟩

def planeKinds : List Int64 :=
  [6, 7, 8, 9, 10, 11, 25, 26, 41, 45, 47, 48, 49, 56, 57, 58, 59]

def EquipmentTemplate.kind? (t : EquipmentTemplate) : Option Int64 :=
  t.category[2]?

def EquipmentTemplate.isPlane (t : EquipmentTemplate) : Bool :=
  t.kind?.any planeKinds.contains

def EquipmentTemplate.columns : List (Column EquipmentTemplate) :=
  [.needs "id" int64 (·.id) fun v s => { s with id := v },
   .needs "name" text (·.name) fun v s => { s with name := v },
   .default "category" int64.list (·.category) fun v s => { s with category := v },
   .default "firepower" int64 (·.firepower) fun v s => { s with firepower := v },
   .default "torpedo" int64 (·.torpedo) fun v s => { s with torpedo := v },
   .default "bombing" int64 (·.bombing) fun v s => { s with bombing := v },
   .default "anti_air" int64 (·.antiAir) fun v s => { s with antiAir := v },
   .default "armor" int64 (·.armor) fun v s => { s with armor := v },
   .default "line_of_sight" int64 (·.lineOfSight) fun v s => { s with lineOfSight := v }]

def EquipmentTemplate.codec : Codec EquipmentTemplate :=
  codecOf "struct EquipmentTemplate" {} EquipmentTemplate.columns

end Flotilla.Store
