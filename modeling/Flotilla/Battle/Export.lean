import Flotilla.Battle.AttackTable
import Flotilla.Battle.Summary

/-! # Tables as text

The attack tables of a battle as lines of fields with commas between them, under a header.
No field can hold a comma, a quote or a line end, so none is quoted; the attackers
of a row are one field, with semicolons between them. A summary is written with tabs
between its fields. Its names are written as they are, so a tab in a name is not told
from one between fields. -/
namespace Flotilla.Battle

open Flotilla.Record

/-- A line: one position attacked in one phase. -/
structure ExportRow where
  segment : SegmentKind
  label : String
  /-- The side that attacked. -/
  side : Side
  target : Nat
  attackers : List Nat
  damage : Int64
  hit : Hit
  shielded : Bool
deriving DecidableEq

def groupRows (t : AttackTable) (side : Side) (g : TargetGroups) : List ExportRow :=
  g.rows.map fun r =>
    ⟨t.segment, t.label, side, r.target, r.attackers, r.damage, r.hit, r.shielded⟩

/-- The lines of an attack, one for each hit. -/
def attackRows (t : AttackTable) (a : ShellingAttack) : List ExportRow :=
  a.hits.map fun h =>
    ⟨t.segment, t.label, a.side, h.target, [a.attacker], h.damage, h.hit, h.shielded⟩

/-- The lines of a table, those of friendly attacks first. -/
def AttackTable.exportRows (t : AttackTable) : List ExportRow :=
  match t.body with
  | .grouped byFriendly byEnemy _ _ =>
    groupRows t .friendly byFriendly ++ groupRows t .enemy byEnemy
  | .shelling attacks => attacks.flatMap (attackRows t)

def exportRows (tables : List AttackTable) : List ExportRow :=
  tables.flatMap AttackTable.exportRows

namespace ExportRow

def attackersField (r : ExportRow) : String :=
  ";".intercalate (r.attackers.map Text.ofNat)

def flagName (b : Bool) : String := if b then "true" else "false"

def header : List String :=
  ["segment", "phase", "side", "target", "attackers", "damage", "hit", "protected"]

def fields (r : ExportRow) : List String :=
  [r.segment.name, r.label, r.side.name, Text.ofNat r.target, r.attackersField,
    Text.ofInt64 r.damage, r.hit.name, flagName r.shielded]

def toJson (r : ExportRow) : Json :=
  .object [
    ("segment", .string r.segment.name),
    ("phase", .string r.label),
    ("side", .string r.side.name),
    ("target", .nat r.target),
    ("attackers", .string r.attackersField),
    ("damage", int64.write r.damage),
    ("hit", .string r.hit.name),
    ("protected", .bool r.shielded)]

end ExportRow

def csvLine (fields : List String) : String :=
  ",".intercalate fields ++ "\n"

def csvText (rows : List ExportRow) : String :=
  String.join ((ExportRow.header :: rows.map ExportRow.fields).map csvLine)

/-! ## Summaries -/

/-- A number of hit points, which may be unknown. -/
def hpField : Option Int64 → String
  | some hp => Text.ofInt64 hp
  | none => "?"

namespace CombatantRow

def header : List String :=
  ["side", "position", "name", "start_hp", "now_hp", "max_hp", "damage", "escaped"]

def fields (side : Side) (r : CombatantRow) : List String :=
  [side.name, Text.ofNat r.position, r.name, hpField r.startHp, hpField r.nowHp, hpField r.maxHp,
    Text.ofInt64 r.damage, ExportRow.flagName r.escaped]

end CombatantRow

def tabbedLine (fields : List String) : String :=
  "\t".intercalate fields ++ "\n"

/-- A summary as a table, the friendly side first. -/
def Summary.tableText (s : Summary) : String :=
  String.join ((CombatantRow.header
    :: (s.friendly.rows.map (CombatantRow.fields .friendly)
      ++ s.enemy.rows.map (CombatantRow.fields .enemy))).map tabbedLine)

end Flotilla.Battle
