import Flotilla.Json.Fault

/-! # Numbers of a JSON text

A numeral is scanned first and given a value afterwards. A numeral without
fraction and exponent is an integer as long as it fits 64 bits, with or without
sign; minus zero and every other numeral is a double. The double is computed from
the digits that fit 64 bits by one multiplication or division by a power of ten,
two for very small ones, so it is close to the written decimal but not always the
nearest double. -/
namespace Flotilla.Json

inductive Number where
  | integer (z : Int)
  | real (x : Float)
deriving DecidableEq

/-- A numeral as it is written: the digits of each part, and the exponent with
whether its sign is a minus. -/
structure Numeral where
  negative : Bool
  whole : List Char
  fraction : Option (List Char)
  power : Option (Bool × List Char)
deriving DecidableEq

/-- Scans the exponent of a numeral, if there is one. -/
def scanPower (cs : List Char) : Scan (Option (Bool × List Char)) :=
  match cs with
  | [] => .done none []
  | c :: rest =>
    if c = 'e' || c = 'E' then
      let (negative, digits) := match rest with
        | '+' :: r => (false, r)
        | '-' :: r => (true, r)
        | r => (false, r)
      match digits.takeWhile Char.isDigit with
      | [] => if digits.isEmpty then .broken .endInValue .invalidNumber
        else .broken .invalidNumber .invalidNumber
      | ds => .done (some (negative, ds)) (digits.dropWhile Char.isDigit)
    else .done none cs

/-- Scans the fraction of a numeral, if there is one. -/
def scanFraction (cs : List Char) : Scan (Option (List Char)) :=
  match cs with
  | '.' :: rest =>
    match rest.takeWhile Char.isDigit with
    | [] => if rest.isEmpty then .broken .endInValue .invalidNumber
      else .broken .invalidNumber .invalidNumber
    | ds => .done (some ds) (rest.dropWhile Char.isDigit)
  | _ => .done none cs

/-- Scans a numeral behind its sign. A zero takes no further whole digits. -/
def scanNumeral (negative : Bool) (cs : List Char) : Scan Numeral :=
  match cs.takeWhile Char.isDigit with
  | [] => if cs.isEmpty then .broken .endInValue .invalidNumber
    else .broken .invalidNumber .invalidNumber
  | '0' :: _ :: _ => .broken .invalidNumber .invalidNumber
  | whole =>
    match scanFraction (cs.dropWhile Char.isDigit) with
    | .broken f g => .broken f g
    | .done fraction rest =>
      match scanPower rest with
      | .broken f g => .broken f g
      | .done power rest => .done ⟨negative, whole, fraction, power⟩ rest

/-- Appends digits to a number while the result fits 64 bits; gives the number and
how many digits were left over. -/
def appendDigits (n : Nat) : List Char → Nat × Nat
  | [] => (n, 0)
  | c :: cs =>
    let next := n * 10 + (c.toNat - '0'.toNat)
    if next < UInt64.size then appendDigits next cs else (n, cs.length + 1)

def powerOfTen (e : Nat) : Float :=
  Float.ofScientific 1 false e

/-- The double that stands for `n · 10 ^ e`. -/
def scaled (n : Nat) (e : Int) : Except Fault Float :=
  let x := n.toUInt64.toFloat
  if e.natAbs ≤ 308 then
    if 0 ≤ e then
      let y := x * powerOfTen e.natAbs
      if y.isInf then .error .numberOutOfRange else .ok y
    else .ok (x / powerOfTen e.natAbs)
  else if n = 0 then .ok x
  else if 0 ≤ e then .error .numberOutOfRange
  else if e < -616 then .ok 0.0
  else .ok (x / powerOfTen 308 / powerOfTen (e + 308).natAbs)

def signed (negative : Bool) (x : Float) : Number :=
  .real (if negative then -x else x)

/-- The greatest exponent that is taken at its value. -/
def greatestPower : Nat := 2147483647

def Numeral.value (n : Numeral) : Except Fault Number :=
  let (whole, excess) := appendDigits 0 n.whole
  match n.fraction, n.power with
  | none, none =>
    if 0 < excess then (scaled whole excess).map (signed n.negative)
    else if !n.negative then .ok (.integer whole)
    else if 0 < whole && whole ≤ Int64.minValue.toInt.natAbs then .ok (.integer (-(whole : Int)))
    else .ok (signed true whole.toUInt64.toFloat)
  | fraction, power =>
    let ds := fraction.getD []
    let (digits, left) := appendDigits whole ds
    let start : Int := excess - ((ds.length - left : Nat) : Int)
    match power with
    | none => (scaled digits start).map (signed n.negative)
    | some (negative, es) =>
      let e := Nat.ofDigitChars 10 es 0
      if greatestPower < e then
        if digits ≠ 0 && !negative then .error .numberOutOfRange
        else .ok (signed n.negative 0.0)
      else
        let e : Int := if negative then -(e : Int) else e
        (scaled digits (start + e)).map (signed n.negative)

end Flotilla.Json
