import Flotilla.Battle.Hit
import Flotilla.Store.Fleet

/-! # Hit points over a battle

Each segment of a battle gives the hit points of a side at its start and the damage
of its phases. Day and night are reckoned on their own and then compared: where one
series is nowhere above the other it is the later one; where neither is, nothing is
known. -/
namespace Flotilla.Battle

/-- The number of positions when no series says otherwise. -/
def defaultPositions : Nat := Store.combinedSize

/-- Hit points at the start and damage, by position. -/
structure Ledger where
  start : List Int64
  damage : List Int64 := []
deriving DecidableEq

/-- The hit points that damage leaves, never below zero. -/
def remaining (start damage : Int64) : Int64 :=
  max (subCapped start damage) 0

/-- The hit points that a ledger leaves, by position; absent damage is none. -/
def remainingAll : List Int64 → List Int64 → List Int64
  | [], _ => []
  | s :: ss, ds => remaining s (ds.headD 0) :: remainingAll ss ds.tail

def Ledger.after (l : Ledger) : List Int64 :=
  remainingAll l.start l.damage

/-- Where known hit points come from. -/
inductive HpSource where
  | day
  | night
  | agreed
  | conflict
  | noData
deriving DecidableEq, Repr

def HpSource.name : HpSource → String
  | .day => "day"
  | .night => "night"
  | .agreed => "agreed"
  | .conflict => "conflict"
  | .noData => "no_data"

/-- Hit points by position, where known. -/
structure Reconciled where
  hps : List (Option Int64)
  source : HpSource
deriving DecidableEq

namespace Reconciled

def unknown (size : Nat) (source : HpSource) : Reconciled :=
  ⟨List.replicate size none, source⟩

def known (hps : List Int64) (source : HpSource) : Reconciled :=
  ⟨hps.map some, source⟩

/-- The hit points at a position, if known. -/
def get (r : Reconciled) (position : Nat) : Option Int64 :=
  (r.hps[position]?).join

end Reconciled

def reconcile : Option (List Int64) → Option (List Int64) → Reconciled
  | none, none => .unknown defaultPositions .noData
  | some day, none => .known day .day
  | none, some night => .known night .night
  | some day, some night =>
    if day.length = night.length then
      let least := List.zipWith min day night
      if least = day then .known least (if least = night then .agreed else .day)
      else if least = night then .known least .night
      else .unknown least.length .conflict
    else .unknown (max day.length night.length) .conflict

def reconcileLedgers (day night : Option Ledger) : Reconciled :=
  reconcile (day.map Ledger.after) (night.map Ledger.after)

def reach (series : List (List Int64)) : Nat :=
  let longest := (series.map List.length).foldl max 0
  if longest = 0 then defaultPositions else longest

/-- Adds series of damage by position. A series that is too short adds nothing at the
positions behind its end. -/
def accumulate (series : List (List Int64)) : List Int64 :=
  (List.range (reach series)).map fun p => sumCapped (series.map fun s => s.getD p 0)

end Flotilla.Battle
