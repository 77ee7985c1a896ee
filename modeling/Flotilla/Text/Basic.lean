/-! # Text

Cutting a text at a character, trimming it, and reading and writing whole numbers in decimal. Blank
are the characters with the Unicode property White_Space, no others. A reader of numbers takes an
optional sign and at least one digit, nothing else, and refuses a value outside its range. Single
characters are given by hexadecimal digits. -/
namespace Flotilla.Text

/-- The text in front of the first separator and the text behind it. -/
def splitFirst (separator : Char) (cs : List Char) : List Char × List Char :=
  (cs.takeWhile (· != separator), (cs.dropWhile (· != separator)).drop 1)

def strip (c : Char) (cs : List Char) : List Char :=
  ((cs.dropWhile (· == c)).reverse.dropWhile (· == c)).reverse

/-! ## Blanks -/

def isBlank (c : Char) : Bool :=
  let n := c.toNat
  (9 ≤ n && n ≤ 13) || n == 0x20 || n == 0x85 || n == 0xa0 || n == 0x1680
    || (0x2000 ≤ n && n ≤ 0x200a) || n == 0x2028 || n == 0x2029 || n == 0x202f
    || n == 0x205f || n == 0x3000

def trimStart (cs : List Char) : List Char :=
  cs.dropWhile isBlank

def trimEnd (cs : List Char) : List Char :=
  (cs.reverse.dropWhile isBlank).reverse

def trim (cs : List Char) : List Char :=
  trimEnd (trimStart cs)

def blank (s : String) : Bool :=
  s.toList.all isBlank

/-! ## Integers -/

/-- The value of a run of decimal digits; an empty run has none. -/
def digits? (cs : List Char) : Option Nat :=
  if cs.isEmpty || !cs.all Char.isDigit then none else some (Nat.ofDigitChars 10 cs 0)

/-- An integer with an optional sign in front of its digits. -/
def int? : List Char → Option Int
  | '-' :: cs => (digits? cs).map fun n => -(n : Int)
  | '+' :: cs => (digits? cs).map fun n => (n : Int)
  | cs => (digits? cs).map fun n => (n : Int)

def hexDigit? (c : Char) : Option Nat :=
  if '0' ≤ c ∧ c ≤ '9' then some (c.toNat - '0'.toNat)
  else if 'a' ≤ c ∧ c ≤ 'f' then some (c.toNat - 'a'.toNat + 10)
  else if 'A' ≤ c ∧ c ≤ 'F' then some (c.toNat - 'A'.toNat + 10)
  else none

/-- The 64-bit integer of a given value, when there is one. -/
def int64OfInt? (z : Int) : Option Int64 :=
  if Int64.minValue.toInt ≤ z ∧ z ≤ Int64.maxValue.toInt then some (Int64.ofInt z) else none

def int64? (cs : List Char) : Option Int64 :=
  (int? cs).bind int64OfInt?

/-- An unsigned 16-bit integer written in decimal; a plus sign is allowed. -/
def nat16? : List Char → Option Nat
  | '+' :: cs => (digits? cs).filter (· < UInt16.size)
  | cs => (digits? cs).filter (· < UInt16.size)

def ofInt : Int → String
  | .ofNat n => Nat.repr n
  | .negSucc n => "-" ++ Nat.repr (n + 1)

def ofNat (n : Nat) : String :=
  Nat.repr n

def ofInt64 (x : Int64) : String :=
  ofInt x.toInt

@[simp] theorem int64OfInt?_toInt (x : Int64) : int64OfInt? x.toInt = some x := by
  rw [int64OfInt?, if_pos ⟨x.le_toInt, Int.le_of_lt_add_one x.toInt_lt⟩, Int64.ofInt_toInt]

theorem toInt_of_int64OfInt? {z : Int} {x : Int64} (h : int64OfInt? z = some x) :
    x.toInt = z := by
  unfold int64OfInt? at h
  split at h
  · rename_i hz
    obtain rfl := Option.some.inj h
    exact Int64.toInt_ofInt_of_le hz.1 (Int.lt_add_one_of_le hz.2)
  · cases h

/-! ## What is written is read back -/

theorem isDigit_of_mem_ofNat {n : Nat} {c : Char} (h : c ∈ (ofNat n).toList) : c.isDigit := by
  rw [ofNat, Nat.toList_repr] at h
  exact Nat.isDigit_of_mem_toDigits (by decide) (by decide) h

@[simp] theorem digits?_ofNat (n : Nat) : digits? (ofNat n).toList = some n := by
  have digits : (ofNat n).toList.all Char.isDigit :=
    List.all_eq_true.mpr fun _ => isDigit_of_mem_ofNat
  rw [digits?, digits, ofNat, Nat.toList_repr, Nat.ofDigitChars_ten_toDigits]
  simp

theorem int?_of_digits {cs : List Char} (h : ∀ c ∈ cs, c.isDigit) :
    int? cs = (digits? cs).map fun n => (n : Int) := by
  unfold int?
  split
  · exact absurd (h '-' List.mem_cons_self) (by decide)
  · exact absurd (h '+' List.mem_cons_self) (by decide)
  · rfl

theorem toList_ofInt_negSucc (n : Nat) :
    (ofInt (.negSucc n)).toList = '-' :: (ofNat (n + 1)).toList :=
  String.toList_append

@[simp] theorem int?_ofInt (z : Int) : int? (ofInt z).toList = some z := by
  cases z with
  | ofNat n =>
    show int? (ofNat n).toList = _
    rw [int?_of_digits fun _ => isDigit_of_mem_ofNat, digits?_ofNat]
    rfl
  | negSucc n =>
    rw [toList_ofInt_negSucc, int?, digits?_ofNat]
    rfl

@[simp] theorem int64?_ofInt64 (x : Int64) : int64? (ofInt64 x).toList = some x := by
  rw [int64?, ofInt64, int?_ofInt, Option.bind_some, int64OfInt?_toInt]

theorem isDigit_of_mem_ofInt64 {x : Int64} {c : Char} (h : c ∈ (ofInt64 x).toList) :
    c = '-' ∨ c.isDigit := by
  rw [ofInt64] at h
  cases hz : x.toInt with
  | ofNat n =>
    rw [hz] at h
    exact .inr (isDigit_of_mem_ofNat (n := n) h)
  | negSucc n =>
    rw [hz, toList_ofInt_negSucc] at h
    exact (List.mem_cons.mp h).imp_right isDigit_of_mem_ofNat

end Flotilla.Text
