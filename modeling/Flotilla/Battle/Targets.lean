import Flotilla.Battle.Hit
import Flotilla.Store.Join

/-! # Attacks by target

Launchers report the positions that they attacked; damage is reported by position.
Grouping turns this round: one row for each position attacked, in the order in
which they were first attacked, with every launcher that attacked it. -/
namespace Flotilla.Battle

open Flotilla.Record

/-- A launching ship and the positions that it attacked; below zero is no attack. -/
structure Launcher where
  index : Nat
  targets : List Int64
deriving DecidableEq

structure Received where
  damage : Int64 := 0
  critical : Option Int64 := none
  shielded : Bool := false
deriving DecidableEq, Inhabited

structure TargetRow where
  target : Nat
  damage : Int64
  critical : Option Int64
  hit : Hit
  shielded : Bool
  attackers : List Nat
deriving DecidableEq

/-- The row of a position that nothing attacked yet, with what the position received. -/
def TargetRow.first (target : Nat) (received : Received) : TargetRow :=
  { target
    damage := received.damage
    critical := received.critical
    hit := classify (some received.damage) received.critical
    shielded := received.shielded
    attackers := [] }

/-- A row with another attacker, or with none for an attack without a launcher. -/
def TargetRow.attackedBy (row : TargetRow) (attacker : Option Nat) : TargetRow :=
  { row with attackers := row.attackers ++ attacker.toList }

/-- The stronger of two flags; no flag is weakest. -/
def strongest : Option Int64 → Option Int64 → Option Int64
  | none, b => b
  | a, none => a
  | some a, some b => some (max a b)

/-- A row with another hit without a launcher added to it. -/
def TargetRow.merge (row : TargetRow) (received : Received) : TargetRow :=
  let damage := addCapped row.damage received.damage
  let critical := strongest row.critical received.critical
  { row with
    damage, critical
    shielded := row.shielded || received.shielded
    hit := classify (some damage) critical }

/-! ## Rows by position -/

/-- Rows by position, in ascending order of positions. -/
structure RowTable where
  entries : List (Nat × TargetRow)
  ascending : Store.Ascending (·.1) entries
deriving DecidableEq

namespace RowTable

def empty : RowTable := ⟨[], .nil⟩

def keys (t : RowTable) : List Nat := t.entries.map (·.1)

def get? (t : RowTable) (target : Nat) : Option TargetRow := Store.valueAt? t.entries target

/-- Puts a row under a position, in place of the one there. -/
def insert (t : RowTable) (target : Nat) (row : TargetRow) : RowTable :=
  ⟨Store.putEntry t.entries target row, t.ascending.place (target, row)⟩

@[simp] theorem get?_insert (t : RowTable) (k : Nat) (row : TargetRow) (p : Nat) :
    (t.insert k row).get? p = if k = p then some row else t.get? p :=
  Store.valueAt?_putEntry t.entries k row p

end RowTable

/-! ## Groups -/

/-- The attacked positions in the order in which they were first attacked, and their rows
by position. -/
structure TargetGroups where
  order : List Nat := []
  byTarget : RowTable := .empty
deriving DecidableEq

instance : Inhabited TargetGroups := ⟨{}⟩

namespace TargetGroups

def get? (g : TargetGroups) (target : Nat) : Option TargetRow := g.byTarget.get? target

@[simp] theorem get?_empty (p : Nat) : get? {} p = none := rfl

/-- The rows in the order in which the positions were first attacked. -/
def rows (g : TargetGroups) : List TargetRow := g.order.filterMap g.get?

def size (g : TargetGroups) : Nat := g.order.length

/-- Records a hit by a launcher, or by none. What a position received counts once, when it
is first attacked. -/
def record (g : TargetGroups) (target : Nat) (attacker : Option Nat) (received : Received) :
    TargetGroups :=
  { order := if (g.get? target).isSome then g.order else g.order ++ [target]
    byTarget := g.byTarget.insert target
      (((g.get? target).getD (.first target received)).attackedBy attacker) }

/-- Adds a hit without a launcher to the row of a position. -/
def merge (g : TargetGroups) (target : Nat) (received : Received) : TargetGroups :=
  match g.get? target with
  | none => g.record target none received
  | some row => { g with byTarget := g.byTarget.insert target (row.merge received) }

end TargetGroups

/-- A reported position; below zero is none. -/
def position? (x : Int64) : Option Nat :=
  if 0 ≤ x then some x.toInt.toNat else none

def recordLauncher (received : List Received) (g : TargetGroups) (l : Launcher) : TargetGroups :=
  (l.targets.filterMap position?).foldl
    (fun g target => g.record target (some l.index) (received.getD target {})) g

def groupAttacks (launchers : List Launcher) (received : List Received) : TargetGroups :=
  launchers.foldl (recordLauncher received) {}

/-- What a position received, as a value. -/
def Received.toJson (r : Received) : Json :=
  .object [("damage", int64.write r.damage), ("critical", Json.ofOption int64.write r.critical),
    ("protected", .bool r.shielded)]

def TargetRow.toJson (r : TargetRow) : Json :=
  .object [
    ("target", .nat r.target),
    ("damage", int64.write r.damage),
    ("critical", Json.ofOption int64.write r.critical),
    ("hit", .string r.hit.name),
    ("protected", .bool r.shielded),
    ("attackers", Json.ofList .nat r.attackers)]

/-- Groups as a value: the positions in order, and the rows by ascending position. -/
def TargetGroups.toJson (g : TargetGroups) : Json :=
  .object [
    ("order", Json.ofList .nat g.order),
    ("by_target", .object (g.byTarget.entries.map fun (t, r) => (Text.ofNat t, r.toJson)))]

end Flotilla.Battle
