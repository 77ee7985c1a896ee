import Flotilla.Text.Basic

/-! # Integers in decimal

Which texts are read as integers, said without the reader: an optional sign in front of one digit
or more. A 64-bit integer is read from the texts of its value and from no others. -/
namespace Flotilla.Text

/-- A text is an integer in decimal: a run of digits that has its value, with an optional sign in
front. -/
def Decimal (cs : List Char) (z : Int) : Prop :=
  ∃ ds : List Char, ds ≠ [] ∧ (∀ d ∈ ds, d.isDigit = true) ∧
    ((cs = ds ∨ cs = '+' :: ds) ∧ z = Nat.ofDigitChars 10 ds 0 ∨
      cs = '-' :: ds ∧ z = -(Nat.ofDigitChars 10 ds 0 : Int))

theorem digits?_eq_some {cs : List Char} {n : Nat} :
    digits? cs = some n ↔
      cs ≠ [] ∧ (∀ c ∈ cs, c.isDigit = true) ∧ Nat.ofDigitChars 10 cs 0 = n := by
  simp only [digits?, Option.ite_none_left_eq_some, Bool.or_eq_true, Bool.not_eq_true',
    not_or, List.isEmpty_iff, Bool.not_eq_false, List.all_eq_true, Option.some_inj, and_assoc,
    ne_eq]

theorem map_digits?_eq_some {cs : List Char} {f : Int → Int} {z : Int} :
    Option.map f (do let n ← digits? cs; pure (n : Int)) = some z ↔
      cs ≠ [] ∧ (∀ c ∈ cs, c.isDigit = true) ∧ f (Nat.ofDigitChars 10 cs 0) = z := by
  simp only [Option.map_eq_some_iff, Option.bind_eq_bind, Option.pure_def,
    Option.bind_eq_some_iff, Option.some_inj]
  constructor
  · rintro ⟨_, ⟨n, digits, rfl⟩, rfl⟩
    obtain ⟨filled, all, rfl⟩ := digits?_eq_some.mp digits
    exact ⟨filled, all, rfl⟩
  · rintro ⟨filled, all, rfl⟩
    exact ⟨_, ⟨_, digits?_eq_some.mpr ⟨filled, all, rfl⟩, rfl⟩, rfl⟩

theorem int?_eq_some {cs : List Char} {z : Int} : int? cs = some z ↔ Decimal cs z := by
  constructor
  · intro h
    unfold int? at h
    split at h
    · obtain ⟨filled, all, rfl⟩ := map_digits?_eq_some.mp h
      exact ⟨_, filled, all, .inr ⟨rfl, rfl⟩⟩
    · obtain ⟨filled, all, rfl⟩ := map_digits?_eq_some.mp h
      exact ⟨_, filled, all, .inl ⟨.inr rfl, rfl⟩⟩
    · obtain ⟨filled, all, rfl⟩ := map_digits?_eq_some.mp h
      exact ⟨_, filled, all, .inl ⟨.inl rfl, rfl⟩⟩
  · rintro ⟨ds, filled, all, same⟩
    rcases same with ⟨rfl | rfl, rfl⟩ | ⟨rfl, rfl⟩
    · rw [int?_of_digits all]
      exact map_digits?_eq_some.mpr ⟨filled, all, rfl⟩
    · exact map_digits?_eq_some.mpr ⟨filled, all, rfl⟩
    · exact map_digits?_eq_some.mpr ⟨filled, all, rfl⟩

/-- A text is read as a 64-bit integer just when it is that integer in decimal. -/
theorem int64?_eq_some {cs : List Char} {x : Int64} :
    int64? cs = some x ↔ Decimal cs x.toInt := by
  rw [int64?, Option.bind_eq_some_iff]
  constructor
  · rintro ⟨z, read, fits⟩
    rw [toInt_of_int64OfInt? fits]
    exact int?_eq_some.mp read
  · intro h
    exact ⟨x.toInt, int?_eq_some.mpr h, int64OfInt?_toInt x⟩

theorem int64?_eq_none {cs : List Char} :
    int64? cs = none ↔ ∀ x : Int64, ¬Decimal cs x.toInt := by
  simp only [Option.eq_none_iff_forall_ne_some, ne_eq, int64?_eq_some]

end Flotilla.Text
