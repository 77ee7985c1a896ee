/-! # Hits and damage

How one hit is shown, and what a damage value of the battle feed says. The feed
gives damage as a double: its whole part is the damage, and a fraction marks that
another ship of the fleet took the hit in the target's place. A sum or difference
that does not fit in 64 bits is held at the nearest end of the range. -/
namespace Flotilla.Battle

inductive Hit where
  | miss
  | normal
  | critical
deriving DecidableEq, Repr, Inhabited

def Hit.name : Hit → String
  | .miss => "miss"
  | .normal => "normal"
  | .critical => "critical"

def criticalFlag : Int64 := 2

def normalFlag : Int64 := 1

/-- Classifies a hit: no damage is a miss whatever the flag. -/
def classify (damage flag : Option Int64) : Hit :=
  match damage with
  | none => .miss
  | some d =>
    if d = 0 then .miss
    else if flag = some criticalFlag then .critical
    else .normal

/-- Damage, and whether a fleet-mate took the hit. -/
structure Damage where
  amount : Int64 := 0
  shielded : Bool := false
deriving DecidableEq, Repr, Inhabited

/-- A fraction above this marks a shielded hit. -/
def shieldThreshold : Float := 0.05

/-- The whole part of a positive double, at most the greatest damage. -/
def wholePart (raw : Float) : Int64 :=
  Int64.ofNat (min raw.toUInt64.toNat Int64.maxValue.toInt.toNat)

/-- The fraction of a positive double; from `2 ^ 53` on there is none. -/
def fractionPart (raw : Float) : Float :=
  if raw < 9007199254740992.0 then raw - raw.toUInt64.toFloat else 0.0

/-- What a damage value says. A value that is not finite or not positive is no damage. -/
def decodeDamage (raw : Float) : Damage :=
  if !raw.isFinite || raw ≤ 0.0 then {}
  else ⟨wholePart raw, decide (shieldThreshold < fractionPart raw)⟩

/-! ## Arithmetic -/

/-- The sum, held inside the range. -/
def addCapped (a b : Int64) : Int64 :=
  Int64.ofIntClamp (a.toInt + b.toInt)

/-- The difference, held inside the range. -/
def subCapped (a b : Int64) : Int64 :=
  Int64.ofIntClamp (a.toInt - b.toInt)

/-- The sum of a list from the front, held inside the range at each step. -/
def sumCapped (xs : List Int64) : Int64 :=
  xs.foldl addCapped 0

end Flotilla.Battle
