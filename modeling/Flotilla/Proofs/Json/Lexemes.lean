import Flotilla.Json.Printer

/-! # Written strings and integers are scanned back

The scanner undoes the escapes of a written string one character at a time. A written
integer is scanned up to its last digit when nothing follows that could go on with it,
and it has its value back when it fits 64 bits. -/
namespace Flotilla.Json

/-! ## Strings -/

theorem hex4?_of_lt {n : Nat} (h : n < 0x20) :
    hex4? '0' '0' (hexChar (n / 16)) (hexChar (n % 16)) = some n := by
  have all : ∀ m < 0x20, hex4? '0' '0' (hexChar (m / 16)) (hexChar (m % 16)) = some m := by
    decide
  exact all n h

theorem scanString_control {c : Char} (h : c.toNat < 0x20) (rest : List Char) :
    scanString ('\\' :: 'u' :: '0' :: '0' :: hexChar (c.toNat / 16) :: hexChar (c.toNat % 16)
      :: rest) = (scanString rest).push c := by
  have trailing_ : trailing c.toNat = false := by unfold trailing; simp; omega
  have leading_ : leading c.toNat = false := by unfold leading; simp; omega
  simp [scanString, hex4?_of_lt h, trailing_, leading_]

theorem scanString_plain {c : Char} (hquote : c ≠ '\x22') (hslash : c ≠ '\\')
    (h : ¬ c.toNat < 0x20) (rest : List Char) :
    scanString (c :: rest) = (scanString rest).push c := by
  rw [scanString]
  · exact if_neg h
  all_goals simp [hquote, hslash]

theorem scanString_escape (c : Char) (rest : List Char) :
    scanString (escape c ++ rest) = (scanString rest).push c := by
  by_cases hquote : c = '\x22'
  · rw [hquote]; simp [escape, scanString, escaped?]
  by_cases hslash : c = '\\'
  · rw [hslash]; simp [escape, scanString, escaped?]
  by_cases hback : c = '\x08'
  · rw [hback]; simp [escape, scanString, escaped?]
  by_cases hfeed : c = '\x0c'
  · rw [hfeed]; simp [escape, scanString, escaped?]
  by_cases hline : c = '\n'
  · rw [hline]; simp [escape, scanString, escaped?]
  by_cases hreturn : c = '\r'
  · rw [hreturn]; simp [escape, scanString, escaped?]
  by_cases htab : c = '\t'
  · rw [htab]; simp [escape, scanString, escaped?]
  rw [escape, if_neg hquote, if_neg hslash, if_neg hback, if_neg hfeed, if_neg hline,
    if_neg hreturn, if_neg htab]
  by_cases hcontrol : c.toNat < 0x20
  · rw [if_pos hcontrol]; exact scanString_control hcontrol rest
  · rw [if_neg hcontrol]; exact scanString_plain hquote hslash hcontrol rest

/-- A written string is scanned up to its closing quote, and holds what was written. -/
theorem scanString_flatMap_escape (cs rest : List Char) :
    scanString (cs.flatMap escape ++ '\x22' :: rest) = .done (.ok cs) rest := by
  induction cs with
  | nil => rw [List.flatMap_nil, List.nil_append, scanString]
  | cons c cs ih => rw [List.flatMap_cons, List.append_assoc, scanString_escape, ih, Scan.push]

/-! ## Integers -/

/-- Nothing that could go on with a numeral stands in front of a text. -/
def EndsNumeral (cs : List Char) : Prop :=
  ∀ c ∈ cs.head?, c.isDigit = false ∧ c ≠ '.' ∧ c ≠ 'e' ∧ c ≠ 'E'

theorem EndsNumeral.takeWhile {cs : List Char} (h : EndsNumeral cs) :
    cs.takeWhile Char.isDigit = [] := by
  cases cs with
  | nil => rfl
  | cons c cs => rw [List.takeWhile_cons, (h c rfl).1]; rfl

theorem EndsNumeral.dropWhile {cs : List Char} (h : EndsNumeral cs) :
    cs.dropWhile Char.isDigit = cs := by
  cases cs with
  | nil => rfl
  | cons c cs => rw [List.dropWhile_cons, (h c rfl).1]; rfl

theorem scanFraction_of_ends {cs : List Char} (h : EndsNumeral cs) :
    scanFraction cs = .done none cs := by
  unfold scanFraction
  split
  · exact absurd rfl (h '.' rfl).2.1
  · rfl

theorem scanPower_of_ends {cs : List Char} (h : EndsNumeral cs) :
    scanPower cs = .done none cs := by
  cases cs with
  | nil => rfl
  | cons c cs => simp [scanPower, (h c rfl).2.2.1, (h c rfl).2.2.2]

theorem scanNumeral_append (negative : Bool) {ds rest : List Char}
    (hds : ∀ d ∈ ds, d.isDigit) (hne : ds ≠ []) (hzero : ∀ c cs, ds ≠ '0' :: c :: cs)
    (hrest : EndsNumeral rest) :
    scanNumeral negative (ds ++ rest) = .done ⟨negative, ds, none, none⟩ rest := by
  have whole : (ds ++ rest).takeWhile Char.isDigit = ds := by
    rw [List.takeWhile_append_of_pos hds, hrest.takeWhile, List.append_nil]
  have behind : (ds ++ rest).dropWhile Char.isDigit = rest := by
    rw [List.dropWhile_append_of_pos hds, hrest.dropWhile]
  unfold scanNumeral
  rw [whole, behind, scanFraction_of_ends hrest]
  split
  · exact absurd rfl hne
  · exact absurd rfl (hzero _ _)
  · simp only [scanPower_of_ends hrest]

theorem toDigits_isDigit (n : Nat) : ∀ d ∈ Nat.toDigits 10 n, d.isDigit :=
  fun _ hd => Nat.isDigit_of_mem_toDigits (by decide) (by decide) hd

theorem toDigits_ne_zero_cons (n : Nat) (c : Char) (cs : List Char) :
    Nat.toDigits 10 n ≠ '0' :: c :: cs := by
  induction n using Nat.strongRecOn generalizing c cs with
  | ind n ih =>
    by_cases hn : n < 10
    · rw [Nat.toDigits_of_lt_base hn]; simp
    · -- the first digit is that of the number without its last digit
      intro h
      rw [Nat.toDigits_of_base_le (by decide) (by omega)] at h
      cases hd : Nat.toDigits 10 (n / 10) with
      | nil => exact Nat.toDigits_ne_nil hd
      | cons d ds =>
        rw [hd, List.cons_append] at h
        obtain ⟨rfl, hds⟩ := List.cons.inj h
        cases ds with
        | nil =>
          have zero : n / 10 = 0 := by
            rw [← @Nat.ofDigitChars_ten_toDigits (n / 10), hd]; rfl
          omega
        | cons e es => exact ih (n / 10) (by omega) e es hd

theorem le_ofDigitChars (cs : List Char) (n : Nat) : n ≤ Nat.ofDigitChars 10 cs n := by
  induction cs generalizing n with
  | nil => exact Nat.le_of_eq Nat.ofDigitChars_nil.symm
  | cons c cs ih =>
    rw [Nat.ofDigitChars_cons]
    have := ih (10 * n + (c.toNat - '0'.toNat))
    omega

theorem appendDigits_of_lt {cs : List Char} {n : Nat}
    (h : Nat.ofDigitChars 10 cs n < UInt64.size) :
    appendDigits n cs = (Nat.ofDigitChars 10 cs n, 0) := by
  induction cs generalizing n with
  | nil => rw [appendDigits, Nat.ofDigitChars_nil]
  | cons c cs ih =>
    rw [Nat.ofDigitChars_cons] at h ⊢
    have := le_ofDigitChars cs (10 * n + (c.toNat - '0'.toNat))
    rw [appendDigits, Nat.mul_comm n 10]
    exact (if_pos (by omega)).trans (ih h)

theorem appendDigits_toDigits {n : Nat} (h : n < UInt64.size) :
    appendDigits 0 (Nat.toDigits 10 n) = (n, 0) := by
  rw [appendDigits_of_lt (by rwa [Nat.ofDigitChars_ten_toDigits]), Nat.ofDigitChars_ten_toDigits]

/-- The integers that are integers again when their decimal form is read. -/
def inRange (z : Int) : Prop := Int64.minValue.toInt ≤ z ∧ z < UInt64.size

theorem value_toDigits {n : Nat} (h : n < UInt64.size) :
    (Numeral.mk false (Nat.toDigits 10 n) none none).value = .ok (.integer n) := by
  unfold Numeral.value
  rw [appendDigits_toDigits h]
  rfl

theorem value_toDigits_negative {n : Nat} (hpos : 0 < n) (h : n ≤ Int64.minValue.toInt.natAbs) :
    (Numeral.mk true (Nat.toDigits 10 n) none none).value = .ok (.integer (-(n : Int))) := by
  have hsize : n < UInt64.size := Nat.lt_of_le_of_lt h (by decide)
  unfold Numeral.value
  rw [appendDigits_toDigits hsize]
  show (if 0 < n && decide (n ≤ Int64.minValue.toInt.natAbs) then _ else _) = _
  exact if_pos (by rw [decide_eq_true h, decide_eq_true hpos]; rfl)

end Flotilla.Json
