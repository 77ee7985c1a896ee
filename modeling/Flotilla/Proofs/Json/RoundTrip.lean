import Flotilla.Proofs.Json.Lexemes

/-! # A written value is read back

The indented form of a value without doubles is scanned into the tree of the value.
The scanner is followed through the written form with any text behind it: it stops
at the end of the form and leaves that text alone. -/
namespace Flotilla.Json

/-! ## The tree of a text -/

mutual

/-- The tree that the text of a value is scanned into. -/
def tree : Json → Node
  | .null => .null
  | .bool b => .bool b
  | .number n => .number (.ok n)
  | .string s => .string (.ok s.toList)
  | .list elements => .list (trees elements) .closed
  | .object members => .object (memberTrees members) .closed

/-- The trees of elements. -/
def trees : List Json → List Node
  | [] => []
  | v :: vs => v.tree :: trees vs

/-- The trees of members. -/
def memberTrees : List (String × Json) → List (Content × Node)
  | [] => []
  | (key, v) :: vs => (.ok key.toList, v.tree) :: memberTrees vs

end

mutual

/-- A value without doubles, its integers in range. -/
def Plain : Json → Prop
  | .null | .bool _ | .string _ => True
  | .number (.integer z) => inRange z
  | .number (.real _) => False
  | .list elements => PlainElements elements
  | .object members => PlainMembers members

/-- Elements without doubles. -/
def PlainElements : List Json → Prop
  | [] => True
  | v :: vs => v.Plain ∧ PlainElements vs

/-- Members without doubles. -/
def PlainMembers : List (String × Json) → Prop
  | [] => True
  | (_, v) :: vs => v.Plain ∧ PlainMembers vs

end

/-! ## Gaps -/

theorem skipGap_newline (level : Nat) (cs : List Char) :
    skipGap (newline level ++ cs) = skipGap cs := by
  refine List.dropWhile_append_of_pos fun c hc => ?_
  rcases List.mem_cons.mp hc with rfl | hc
  · rfl
  · rw [(List.mem_replicate.mp hc).2]; rfl

theorem skipGap_of_not {c : Char} (h : isGap c = false) (cs : List Char) :
    skipGap (c :: cs) = c :: cs := by
  rw [skipGap, List.dropWhile_cons, h]; rfl

theorem skipGap_newline_cons {c : Char} (h : isGap c = false) (level : Nat) (cs : List Char) :
    skipGap (newline level ++ c :: cs) = c :: cs := by
  rw [skipGap_newline, skipGap_of_not h]

theorem endsNumeral_newline (level : Nat) (cs : List Char) : EndsNumeral (newline level ++ cs) := by
  rintro _ ⟨⟩
  decide

theorem endsNumeral_comma (cs : List Char) : EndsNumeral (',' :: cs) := by
  rintro _ ⟨⟩
  decide

theorem endsNumeral_writeElements (vs : List Json) (level level' : Nat) (cs : List Char) :
    EndsNumeral (writeElements level vs ++ (newline level' ++ cs)) := by
  cases vs with
  | nil => exact endsNumeral_newline level' cs
  | cons v vs => rw [writeElements]; exact endsNumeral_comma _

theorem endsNumeral_writeMembers (ms : List (String × Json)) (level level' : Nat)
    (cs : List Char) : EndsNumeral (writeMembers level ms ++ (newline level' ++ cs)) := by
  cases ms with
  | nil => exact endsNumeral_newline level' cs
  | cons m ms => rw [writeMembers]; exact endsNumeral_comma _

/-! ## Steps of the scanner -/

theorem scanNode_congr {cs cs' : List Char} (h : skipGap cs = skipGap cs') (fuel : Nat) :
    scanNode fuel cs = scanNode fuel cs' := by
  cases fuel with
  | zero => rw [scanNode, scanNode]
  | succ fuel => rw [scanNode, scanNode, h]

theorem isGap_of_isDigit {c : Char} (h : c.isDigit) : isGap c = false := by
  cases hgap : isGap c with
  | false => rfl
  | true =>
    simp only [isGap, Bool.or_eq_true, decide_eq_true_eq, or_assoc] at hgap
    rcases hgap with rfl | rfl | rfl | rfl <;> exact absurd h (by decide)

theorem scanNode_digit {c : Char} (hc : c.isDigit) (fuel : Nat) (rest : List Char) :
    scanNode (fuel + 1) (c :: rest) = numberNode (scanNumeral false (c :: rest)) := by
  rw [scanNode, skipGap_of_not (isGap_of_isDigit hc)]
  split
  all_goals rename_i heq
  · cases heq
  all_goals obtain ⟨rfl, rfl⟩ := List.cons.inj heq
  case h_9 => exact if_pos hc
  all_goals exact absurd hc (by decide)

theorem scanElements_closed {cs rest : List Char} (h : skipGap cs = ']' :: rest) (fuel : Nat)
    (first : Bool) : scanElements (fuel + 1) first cs = ([], .closed, rest) := by
  rw [scanElements, h]
  rfl

theorem scanElements_first {fuel : Nat} {c : Char} {cs rest rest' rest'' : List Char} {n : Node}
    {ns : List Node} {last : ListEnd} (h : skipGap cs = c :: rest) (hc : c ≠ ']')
    (hn : scanNode fuel (c :: rest) = (n, rest'))
    (hns : scanElements fuel false rest' = (ns, last, rest'')) :
    scanElements (fuel + 1) true cs = (n :: ns, last, rest'') := by
  rw [scanElements, h]
  split
  · contradiction
  · rename_i heq; exact absurd (List.cons.inj heq).1 hc
  · rename_i heq
    obtain ⟨rfl, rfl⟩ := List.cons.inj heq
    rw [if_pos rfl, hn]
    simp only [hns]

theorem scanElements_next {fuel : Nat} {c : Char} {cs rest rest' rest'' : List Char} {n : Node}
    {ns : List Node} {last : ListEnd} (h : skipGap cs = c :: rest) (hc : c ≠ ']')
    (hn : scanNode fuel (c :: rest) = (n, rest'))
    (hns : scanElements fuel false rest' = (ns, last, rest'')) :
    scanElements (fuel + 1) false (',' :: cs) = (n :: ns, last, rest'') := by
  rw [scanElements, skipGap_of_not (by decide)]
  split
  · contradiction
  · rename_i heq; exact absurd (List.cons.inj heq).1 (by decide)
  · rename_i heq
    obtain ⟨rfl, rfl⟩ := List.cons.inj heq
    rw [if_neg Bool.false_ne_true, if_pos rfl, h]
    split
    · contradiction
    · rename_i heq; exact absurd (List.cons.inj heq).1 hc
    · rw [hn]
      simp only [hns]

theorem scanMembers_closed {cs rest : List Char} (h : skipGap cs = '\x7d' :: rest) (fuel : Nat)
    (first : Bool) : scanMembers (fuel + 1) first cs = ([], .closed, rest) := by
  rw [scanMembers, h]
  rfl

theorem scanMembers_first {cs rest : List Char} (h : skipGap cs = '\x22' :: rest) (fuel : Nat) :
    scanMembers (fuel + 1) true cs = scanMember fuel rest := by
  rw [scanMembers, h]
  rfl

theorem scanMembers_next {cs rest : List Char} (h : skipGap cs = '\x22' :: rest) (fuel : Nat) :
    scanMembers (fuel + 1) false (',' :: cs) = scanMember fuel rest := by
  rw [scanMembers, skipGap_of_not (by decide)]
  split
  · contradiction
  · rename_i heq; exact absurd (List.cons.inj heq).1 (by decide)
  · rename_i heq
    obtain ⟨rfl, rfl⟩ := List.cons.inj heq
    rw [if_neg Bool.false_ne_true, if_pos rfl, h]
    rfl

theorem scanMember_done {fuel : Nat} {cs rest rest' rest'' : List Char} {key : Content}
    {n : Node} {ns : List (Content × Node)} {last : ObjectEnd}
    (hkey : scanString cs = .done key (':' :: rest)) (hn : scanNode fuel rest = (n, rest'))
    (hns : scanMembers fuel false rest' = (ns, last, rest'')) :
    scanMember (fuel + 1) cs = ((key, n) :: ns, last, rest'') := by
  rw [scanMember, hkey]
  simp only [skipGap_of_not (show isGap ':' = false by decide), hn, hns]

/-! ## Leaves -/

theorem scanNode_string (s : String) (fuel : Nat) (rest : List Char) :
    scanNode (fuel + 1) (writeString s ++ rest) = (.string (.ok s.toList), rest) := by
  show stringNode (scanString (s.toList.flatMap escape ++ ['\x22'] ++ rest)) = _
  rw [List.append_assoc, List.singleton_append, scanString_flatMap_escape]
  rfl

theorem scanNode_integer {z : Int} (hz : inRange z) (fuel : Nat) {rest : List Char}
    (hrest : EndsNumeral rest) :
    scanNode (fuel + 1) ((Text.ofInt z).toList ++ rest) = (.number (.ok (.integer z)), rest) := by
  have scanned (negative : Bool) (n : Nat) :=
    scanNumeral_append negative (toDigits_isDigit n) Nat.toDigits_ne_nil
      (toDigits_ne_zero_cons n) hrest
  cases z with
  | ofNat n =>
    have small : n < UInt64.size := Int.ofNat_lt.mp hz.2
    rw [Text.ofInt, Nat.toList_repr]
    have first := scanned false n
    cases hds : Nat.toDigits 10 n with
    | nil => exact absurd hds Nat.toDigits_ne_nil
    | cons d ds =>
      have hd : d.isDigit := toDigits_isDigit n d (hds ▸ List.mem_cons_self)
      rw [hds] at first
      rw [List.cons_append] at first ⊢
      rw [scanNode_digit hd, first, numberNode, ← hds, value_toDigits small]
      rfl
  | negSucc n =>
    have low : n + 1 ≤ Int64.minValue.toInt.natAbs := by
      have := hz.1
      rw [Int64.toInt_minValue] at this ⊢
      omega
    rw [Text.ofInt, String.toList_append, Nat.toList_repr]
    show numberNode (scanNumeral true (Nat.toDigits 10 (n + 1) ++ rest)) = _
    rw [scanned, numberNode, value_toDigits_negative (Nat.succ_pos n) low]
    rfl

/-! ## Whole values -/

theorem Plain.opens {v : Json} (h : v.Plain) (level : Nat) :
    ∃ c cs, v.write level = c :: cs ∧ isGap c = false ∧ c ≠ ']' := by
  cases v with
  | null => exact ⟨_, _, rfl, by decide, by decide⟩
  | bool b => cases b <;> exact ⟨_, _, rfl, by decide, by decide⟩
  | number n =>
    cases n with
    | real x => exact h.elim
    | integer z =>
      show ∃ c cs, (Text.ofInt z).toList = c :: cs ∧ _
      cases z with
      | ofNat n =>
        rw [Text.ofInt, Nat.toList_repr]
        cases hds : Nat.toDigits 10 n with
        | nil => exact absurd hds Nat.toDigits_ne_nil
        | cons d ds =>
          have hd : d.isDigit := toDigits_isDigit n d (hds ▸ List.mem_cons_self)
          exact ⟨d, ds, rfl, isGap_of_isDigit hd, by rintro rfl; exact absurd hd (by decide)⟩
      | negSucc n =>
        rw [Text.ofInt, String.toList_append]
        exact ⟨'-', _, rfl, by decide, by decide⟩
  | string s => exact ⟨_, _, rfl, by decide, by decide⟩
  | list vs => cases vs <;> exact ⟨_, _, rfl, by decide, by decide⟩
  | object ms => rcases ms with _ | ⟨⟨key, v⟩, ms⟩ <;> exact ⟨_, _, rfl, by decide, by decide⟩

theorem Plain.skipGap_write {v : Json} (h : v.Plain) (level level' : Nat) (rest : List Char) :
    ∃ c cs, skipGap (newline level' ++ (v.write level ++ rest)) = c :: cs ∧ c ≠ ']' ∧
      c :: cs = v.write level ++ rest := by
  obtain ⟨c, cs, hwrite, hgap, hclose⟩ := h.opens level
  refine ⟨c, cs ++ rest, ?_, hclose, by rw [hwrite, List.cons_append]⟩
  rw [hwrite, List.cons_append, skipGap_newline_cons hgap]

theorem scanMember_write (key : String) {v : Json} {level fuel : Nat} {tail rest : List Char}
    {ns : List (Content × Node)} (hn : scanNode fuel (v.write level ++ tail) = (v.tree, tail))
    (hns : scanMembers fuel false tail = (ns, .closed, rest)) :
    scanMember (fuel + 1)
        (key.toList.flatMap escape ++ '\x22' :: ':' :: ' ' :: (v.write level ++ tail))
      = ((.ok key.toList, v.tree) :: ns, .closed, rest) := by
  have blank : skipGap (' ' :: (v.write level ++ tail)) = skipGap (v.write level ++ tail) := rfl
  exact scanMember_done (scanString_flatMap_escape _ _) ((scanNode_congr blank fuel).trans hn) hns

-- Induction on the value. An element or a member takes at most two steps before the scanner
-- comes to its value, and at least one character stands in front of it, so three times the
-- length of what is left remains as fuel.
mutual

/-- The scanner goes over the written form of a value, from the fuel that its length gives. -/
theorem scanNode_write {v : Json} (h : v.Plain) (level : Nat) {rest : List Char}
    (hrest : EndsNumeral rest) (fuel : Nat) (hf : 3 * (v.write level).length + 1 ≤ fuel) :
    scanNode fuel (v.write level ++ rest) = (v.tree, rest) := by
  obtain ⟨fuel, rfl⟩ : ∃ f, fuel = f + 1 := ⟨fuel - 1, by omega⟩
  match v with
  | .null => rfl
  | .bool true => rfl
  | .bool false => rfl
  | .number (.integer z) => exact scanNode_integer h fuel hrest
  | .string s => exact scanNode_string s fuel rest
  | .list [] =>
    simp only [write, List.length_cons] at hf
    obtain ⟨fuel, rfl⟩ : ∃ f, fuel = f + 1 := ⟨fuel - 1, by omega⟩
    rfl
  | .list (v :: vs) =>
    simp only [write, List.length_append, List.length_cons] at hf
    obtain ⟨fuel, rfl⟩ : ∃ f, fuel = f + 1 := ⟨fuel - 1, by omega⟩
    obtain ⟨c, cs, hgap, hclose, hcs⟩ := h.1.skipGap_write (level + 1) (level + 1)
      (writeElements (level + 1) vs ++ (newline level ++ ']' :: rest))
    have element := scanNode_write h.1 (level + 1)
      (endsNumeral_writeElements vs (level + 1) level (']' :: rest)) fuel (by omega)
    have elements := scanElements_write h.2 (level + 1) level rest fuel (by omega)
    have list_ := scanElements_first hgap hclose (hcs ▸ element) elements
    simp only [write, List.append_assoc, List.cons_append, List.nil_append, scanNode, tree, trees]
    rw [skipGap_of_not (by decide)]
    simp only [list_]
  | .object [] =>
    simp only [write, List.length_cons] at hf
    obtain ⟨fuel, rfl⟩ : ∃ f, fuel = f + 1 := ⟨fuel - 1, by omega⟩
    rfl
  | .object ((key, v) :: ms) =>
    simp only [write, List.length_append, List.length_cons] at hf
    obtain ⟨fuel, rfl⟩ : ∃ f, fuel = f + 2 := ⟨fuel - 2, by omega⟩
    have value := scanNode_write h.1 (level + 1)
      (endsNumeral_writeMembers ms (level + 1) level ('\x7d' :: rest)) fuel (by omega)
    have members := scanMembers_write h.2 (level + 1) level rest fuel (by omega)
    have object_ := (scanMembers_first (skipGap_newline_cons (by decide) (level + 1) _)
      (fuel + 1)).trans (scanMember_write key value members)
    simp only [write, writeString, List.append_assoc, List.cons_append, List.nil_append, scanNode,
      tree, memberTrees]
    rw [skipGap_of_not (by decide)]
    simp only [object_]

theorem scanElements_write {vs : List Json} (h : PlainElements vs) (level level' : Nat)
    (rest : List Char) (fuel : Nat) (hf : 3 * (writeElements level vs).length + 1 ≤ fuel) :
    scanElements fuel false (writeElements level vs ++ (newline level' ++ ']' :: rest))
      = (trees vs, .closed, rest) := by
  obtain ⟨fuel, rfl⟩ : ∃ f, fuel = f + 1 := ⟨fuel - 1, by omega⟩
  match vs with
  | [] => exact scanElements_closed (skipGap_newline_cons (by decide) level' rest) fuel false
  | v :: vs =>
    simp only [writeElements, List.length_append, List.length_cons] at hf
    obtain ⟨c, cs, hgap, hclose, hcs⟩ := h.1.skipGap_write level level
      (writeElements level vs ++ (newline level' ++ ']' :: rest))
    have element := scanNode_write h.1 level
      (endsNumeral_writeElements vs level level' (']' :: rest)) fuel (by omega)
    have elements := scanElements_write h.2 level level' rest fuel (by omega)
    rw [writeElements, trees, List.append_assoc, List.append_assoc, List.cons_append]
    exact scanElements_next hgap hclose (hcs ▸ element) elements

theorem scanMembers_write {ms : List (String × Json)} (h : PlainMembers ms) (level level' : Nat)
    (rest : List Char) (fuel : Nat) (hf : 3 * (writeMembers level ms).length + 1 ≤ fuel) :
    scanMembers fuel false (writeMembers level ms ++ (newline level' ++ '\x7d' :: rest))
      = (memberTrees ms, .closed, rest) := by
  obtain ⟨fuel, rfl⟩ : ∃ f, fuel = f + 1 := ⟨fuel - 1, by omega⟩
  match ms with
  | [] => exact scanMembers_closed (skipGap_newline_cons (by decide) level' rest) fuel false
  | (key, v) :: ms =>
    simp only [writeMembers, List.length_append, List.length_cons] at hf
    obtain ⟨fuel, rfl⟩ : ∃ f, fuel = f + 1 := ⟨fuel - 1, by omega⟩
    have value := scanNode_write h.1 level
      (endsNumeral_writeMembers ms level level' ('\x7d' :: rest)) fuel (by omega)
    have members := scanMembers_write h.2 level level' rest fuel (by omega)
    simp only [writeMembers, writeString, List.append_assoc, List.cons_append, List.nil_append,
      memberTrees]
    exact (scanMembers_next (skipGap_newline_cons (by decide) level _) (fuel + 1)).trans
      (scanMember_write key value members)

end

/-- The indented form of a value without doubles is read as the tree of the value. -/
theorem read_pretty {v : Json} (h : v.Plain) :
    Document.read v.pretty.toList = ⟨v.tree, false⟩ := by
  have ends : EndsNumeral [] := nofun
  have scan := scanNode_write h 0 ends (3 * (v.write 0).length + 1) (Nat.le_refl _)
  rw [List.append_nil] at scan
  rw [pretty, String.toList_ofList, Document.read, scan]
  rfl

/-! ## What a text says of its value -/

theorem write_object_cons (key : String) (v : Json) (members : Members) :
    (object ((key, v) :: members)).write 0
      = '\x7b' :: newline 1 ++ '\x22' :: (key.toList.flatMap escape ++ '\x22' ::
          (':' :: ' ' :: (v.write 1 ++ (writeMembers 1 members ++ newline 0 ++ ['\x7d'])))) := by
  simp [write, writeString]

theorem write_string_append (s : String) (level : Nat) (rest : List Char) :
    (string s).write level ++ rest
      = '\x22' :: (s.toList.flatMap escape ++ '\x22' :: rest) := by
  simp [write, writeString]

/-- A scan stops at the closing quote, which tells a quoted text from what stands behind it. -/
theorem quoted_inj {cs cs' rest rest' : List Char}
    (h : cs.flatMap escape ++ '\x22' :: rest = cs'.flatMap escape ++ '\x22' :: rest') :
    cs = cs' ∧ rest = rest' := by
  have scanned := scanString_flatMap_escape cs rest
  rw [h, scanString_flatMap_escape] at scanned
  injection scanned with content behind
  exact ⟨(Except.ok.inj content).symm, behind.symm⟩

section

variable {key key' : String} {v v' : Json} {ms ms' : Members}

theorem first_of_pretty
    (h : (object ((key, v) :: ms)).pretty = (object ((key', v') :: ms')).pretty) :
    key = key' ∧ v.write 1 ++ (writeMembers 1 ms ++ newline 0 ++ ['\x7d'])
      = v'.write 1 ++ (writeMembers 1 ms' ++ newline 0 ++ ['\x7d']) := by
  have text := String.ofList_injective h
  rw [write_object_cons, write_object_cons] at text
  obtain ⟨keys, values⟩ := quoted_inj (List.cons.inj (List.append_cancel_left text)).2
  exact ⟨String.toList_injective keys, (List.cons.inj (List.cons.inj values).2).2⟩

theorem first_string_of_pretty {s s' : String}
    (h : (object ((key, string s) :: ms)).pretty = (object ((key', string s') :: ms')).pretty) :
    s = s' := by
  have values := (first_of_pretty h).2
  rw [write_string_append, write_string_append] at values
  exact String.toList_injective (quoted_inj (List.cons.inj values).2).1

end

end Flotilla.Json
