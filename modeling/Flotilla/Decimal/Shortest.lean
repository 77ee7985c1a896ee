/-! # The shortest decimal of a binary fraction

A double is `m · 2 ^ q`. The reals that round to it form an interval around it,
whose ends belong to it exactly when `m` is even. Its shortest decimal has the
fewest digits of all decimals in that interval and is the nearest of those; on
each decimal grid only the two neighbours of the value need a look. All of the
arithmetic is exact. -/
namespace Flotilla.Decimal

def twos (n : Nat) : Nat := Nat.pow 2 n

def tens (n : Nat) : Nat := Nat.pow 10 n

/-- A positive binary fraction `mantissa · 2 ^ exponent` with the interval of reals
that round to it: from `mantissa − below / 4` to `mantissa + 1 / 2` units. -/
structure Binary where
  mantissa : Nat
  exponent : Int
  below : Nat
deriving Repr, DecidableEq

/-- The positive decimal `digits · 10 ^ exponent`. -/
structure Scientific where
  digits : Nat
  exponent : Int
deriving Repr, DecidableEq

/-- The finite nonzero magnitude held in the bits of a double. -/
def Binary.ofBits (bits : UInt64) : Binary :=
  let fraction : Nat := bits.toNat % twos 52
  let biased : Nat := bits.toNat / twos 52 % twos 11
  if biased = 0 then ⟨fraction, -1074, 2⟩
  else ⟨twos 52 + fraction, (biased : Int) - 1075, if fraction = 0 ∧ 1 < biased then 1 else 2⟩

/-- `c · 10 ^ e ⋚ x · 2 ^ q`, by exact cross multiplication. -/
def compareScaled (c : Nat) (e : Int) (x : Nat) (q : Int) : Ordering :=
  compare (c * tens e.toNat * twos (-q).toNat) (x * twos q.toNat * tens (-e).toNat)

/-- Whether a decimal lies in the interval of a binary fraction. -/
def Binary.holds (b : Binary) (d : Scientific) : Bool :=
  let low := compareScaled d.digits d.exponent (4 * b.mantissa - b.below) (b.exponent - 2)
  let high := compareScaled d.digits d.exponent (4 * b.mantissa + 2) (b.exponent - 2)
  let ends := b.mantissa % 2 = 0
  (low = .gt ∨ low = .eq ∧ ends) ∧ (high = .lt ∨ high = .eq ∧ ends)

/-- The greatest `e` up to a start, within the fuel, with `10 ^ e` at most the fraction. -/
def Binary.magnitudeFrom (b : Binary) : Nat → Int → Int
  | 0, e => e
  | fuel + 1, e =>
    if compareScaled 1 e b.mantissa b.exponent = .gt then b.magnitudeFrom fuel (e - 1) else e

/-- The decimal exponent of the leading digit: no double reaches `10 ^ 309`, none but
zero is below `10 ^ -324`. -/
def Binary.magnitude (b : Binary) : Int :=
  b.magnitudeFrom 640 309

/-- The number of whole units `10 ^ e` in the fraction. -/
def Binary.units (b : Binary) (e : Int) : Nat :=
  (b.mantissa * twos b.exponent.toNat * tens (-e).toNat) / (tens e.toNat * twos (-b.exponent).toNat)

/-- The nearer to the fraction of a grid point and the next one; the even one at a tie. -/
def Binary.nearer (b : Binary) (c : Nat) (e : Int) : Nat :=
  match compareScaled (2 * c + 1) e (2 * b.mantissa) b.exponent with
  | .lt => c + 1
  | .gt => c
  | .eq => if c % 2 = 0 then c else c + 1

/-- The decimal with a given number of digits that stands for the fraction, if one does. -/
def Binary.onGrid? (b : Binary) (size : Nat) : Option Scientific :=
  let e := b.magnitude - (size : Int) + 1
  let c := b.units e
  match b.holds ⟨c, e⟩, b.holds ⟨c + 1, e⟩ with
  | true, true => some ⟨b.nearer c e, e⟩
  | true, false => some ⟨c, e⟩
  | false, true => some ⟨c + 1, e⟩
  | false, false => none

/-- The shortest decimal that reads back as the fraction; seventeen digits always do. -/
def Binary.shortest (b : Binary) : Scientific :=
  ((List.range 17).findSome? fun k => b.onGrid? (k + 1)).getD ⟨b.units (b.magnitude - 16),
    b.magnitude - 16⟩

/-- How decimals are written: the exponents of the leading digit that are written
without a power of ten, both ends included. -/
structure Style where
  least : Int
  greatest : Int

/-- The digits without the zeros behind them. -/
def significant (n : Nat) : List Char :=
  let ds := ((Nat.toDigits 10 n).reverse.dropWhile (· = '0')).reverse
  if ds.isEmpty then ['0'] else ds

def power (e : Int) : List Char :=
  'e' :: (if e < 0 then '-' else '+') :: Nat.toDigits 10 e.natAbs

def Style.write (s : Style) (d : Scientific) : List Char :=
  let ds := significant d.digits
  let e := d.exponent + ((Nat.toDigits 10 d.digits).length : Int) - 1
  if e < s.least ∨ s.greatest < e then
    match ds with
    | [] => []
    | [c] => c :: power e
    | c :: cs => c :: '.' :: cs ++ power e
  else if e < 0 then '0' :: '.' :: List.replicate (-e - 1).toNat '0' ++ ds
  else
    let whole := e.toNat + 1
    let front := ds.take whole ++ List.replicate (whole - ds.length) '0'
    let back := ds.drop whole
    front ++ '.' :: (if back.isEmpty then ['0'] else back)

def Style.float (s : Style) (x : Float) : String :=
  let bits := x.toBits
  let sign := if bits < 0x8000000000000000 then [] else ['-']
  let body := if bits &&& 0x7fffffffffffffff = 0 then ['0', '.', '0']
    else s.write (Binary.ofBits bits).shortest
  String.ofList (sign ++ body)

end Flotilla.Decimal
