import Mathlib.Data.List.DropRight
import Flotilla.Text.Basic

/-! # Pieces of a text

Where the characters of the pieces of a text come from, of the text that pieces are joined to, and
of a text that is cut off at one end. -/
namespace Flotilla.Text

/-! ## Pieces that are cut -/

theorem piece_of_mem_splitOn {separator : Char} {cs p : List Char} (h : p ∈ cs.splitOn separator) :
    separator ∉ p ∧ p ⊆ cs := by
  by_cases member : separator ∈ cs
  · obtain ⟨front, back, split, free⟩ := List.eq_append_cons_of_mem member
    have shorter : back.length < cs.length := by simp [split]; omega
    rw [split, List.splitOn_append_cons_self_of_not_mem free] at h
    rw [split]
    rcases List.mem_cons.mp h with rfl | h
    · exact ⟨free, List.subset_append_left ..⟩
    · obtain ⟨apart, within⟩ := piece_of_mem_splitOn h
      exact ⟨apart, fun _ hc => List.mem_append_right _ (List.mem_cons_of_mem _ (within hc))⟩
  · rw [List.splitOn_eq_singleton member, List.mem_singleton] at h
    subst h
    exact ⟨member, List.Subset.refl p⟩
termination_by cs.length

theorem strip_subset (c : Char) (cs : List Char) : strip c cs ⊆ cs := by
  have back : strip c cs ⊆ cs.dropWhile (· == c) := (List.rdropWhile_prefix _ _).subset
  exact fun _ h => (List.dropWhile_suffix _).subset (back h)

theorem rdropWhile_append (p : Char → Bool) (front back : List Char) :
    (front ++ back).rdropWhile p
      = if back.rdropWhile p = [] then front.rdropWhile p else front ++ back.rdropWhile p := by
  simp only [List.rdropWhile, List.reverse_append, List.dropWhile_append, List.isEmpty_iff,
    List.reverse_eq_nil_iff]
  split
  · rfl
  · rw [List.reverse_append, List.reverse_reverse]

/-! ## Pieces that are joined -/

theorem mem_intercalate {α : Type} {x : α} {sep : List α} {ls : List (List α)}
    (h : x ∈ sep.intercalate ls) : x ∈ sep ∨ ∃ l ∈ ls, x ∈ l := by
  induction ls with
  | nil => simp at h
  | cons l ls ih =>
    cases ls with
    | nil => exact .inr ⟨l, List.mem_cons_self, by simpa using h⟩
    | cons m ls =>
      rw [List.intercalate_cons_cons, List.mem_append, List.mem_append] at h
      rcases h with (first | between) | rest
      · exact .inr ⟨l, List.mem_cons_self, first⟩
      · exact .inl between
      · exact (ih rest).imp_right fun ⟨k, hk, hx⟩ => ⟨k, List.mem_cons_of_mem l hk, hx⟩

/-! ## Text in front -/

theorem splitFirst_append_cons {separator : Char} {p : List Char} (h : separator ∉ p)
    (cs : List Char) : splitFirst separator (p ++ separator :: cs) = (p, cs) := by
  have front : ∀ c ∈ p, (c != separator) = true :=
    fun c hc => bne_iff_ne.mpr fun same => h (same ▸ hc)
  rw [splitFirst, List.takeWhile_append_of_pos front, List.dropWhile_append_of_pos front]
  simp

theorem isPrefixOf?_eq_none {p cs : List Char} (h : ¬p <+: cs) : p.isPrefixOf? cs = none :=
  Option.eq_none_iff_forall_ne_some.mpr fun rest found =>
    h ⟨rest, List.isPrefixOf?_eq_some_iff_append_eq.mp found⟩

end Flotilla.Text
