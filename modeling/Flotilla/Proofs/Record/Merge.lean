import Mathlib.Data.List.Nodup
import Flotilla.Proofs.Json.Members
import Flotilla.Proofs.Record.Codec
import Flotilla.Proofs.Record.Reading

/-! # Records merged with members

A record goes through its written form when members are set in it: it is written, the
members are put over it, and the result is read. When each column of the record type
reads into its own part alone, this sets the columns that are named and leaves the others,
and whether it is accepted depends on the members alone. -/
namespace Flotilla.Record

open Flotilla.Json (Node Members IsMap given withGiven)

variable {α ρ : Type}

/-! ## Codecs of held values -/

/-- A codec that reads back the held form of what it writes. -/
def Codec.Holds (c : Codec α) : Prop := ∀ a, c.read (c.write a).node = .ok a

theorem int64_holds : int64.Holds := int64_lawful.read

theorem text_holds : text.Holds := text_lawful.read

theorem readEach_nodes {c : Codec α} (h : c.Holds) (as : List α) :
    readEach c.read (Json.nodes (as.map c.write)) = .ok as := by
  induction as with
  | nil => rfl
  | cons a as ih =>
    rw [List.map_cons, Json.nodes, readEach, h]
    exact congrArg (Except.map (a :: ·)) ih

theorem Codec.Holds.list {c : Codec α} (h : c.Holds) : c.list.Holds := by
  intro as
  show readList c.read (.list (Json.nodes (as.map c.write)) .held) = _
  rw [readList, readEach_nodes h]
  rfl

/-! ## Columns that keep to their own part -/

/-- What the columns write of a record. -/
def valuesOf (columns : List (Column ρ)) (r : ρ) : List Json := columns.map (·.write r)

theorem getElem?_valuesOf {columns : List (Column ρ)} {i : Nat} {c : Column ρ}
    (h : columns[i]? = some c) (r : ρ) : (valuesOf columns r)[i]? = some (c.write r) := by
  rw [valuesOf, List.getElem?_map, h, Option.map_some]

/-- A column takes a value as one that it then writes, whatever the record is. -/
def Column.Takes (c : Column ρ) (v w : Json) : Prop :=
  ∀ r, ∃ r', c.read v.node r = .ok r' ∧ c.write r' = w

theorem Column.Takes.eq {c : Column ρ} {v w w' : Json} (h : c.Takes v w) (h' : c.Takes v w')
    (r : ρ) : w = w' := by
  obtain ⟨s, hs, rfl⟩ := h r
  obtain ⟨s', hs', rfl⟩ := h' r
  rw [hs] at hs'
  rw [Except.ok.inj hs']

/-- A column that reads into its own part of any record, and leaves the other columns. -/
structure Column.Separate (columns : List (Column ρ)) (c : Column ρ) : Prop where
  takes : ∀ (v : Json) r r', c.read v.node r = .ok r' → c.Takes v (c.write r')
  frame : ∀ (v : Json) r r', c.read v.node r = .ok r' → ∀ d ∈ columns, d.name ≠ c.name →
    d.write r' = d.write r
  holds : ∀ r, c.Takes (c.write r) (c.write r)

theorem separate_of_set {columns : List (Column ρ)} {c : Column ρ} {i : Nat}
    (hi : columns[i]? = some c) {k : Codec α} {get : ρ → α} {set : α → ρ → ρ}
    (hread : ∀ n r, c.read n r = (k.read n).map (set · r))
    (hwrite : ∀ r, c.write r = k.write (get r)) (h : k.Holds)
    (own : ∀ a r, valuesOf columns (set a r) = (valuesOf columns r).set i (k.write a)) :
    c.Separate columns := by
  have set_own : ∀ a r, c.write (set a r) = k.write a := by
    intro a r
    have written := getElem?_valuesOf hi (set a r)
    have inside := (List.getElem?_eq_some_iff.mp hi).1
    rw [own, List.getElem?_set_self (by rwa [valuesOf, List.length_map])] at written
    exact (Option.some.inj written).symm
  have takes_own : ∀ (v : Json) a, k.read v.node = .ok a → c.Takes v (k.write a) := by
    intro v a ha s
    refine ⟨set a s, ?_, set_own a s⟩
    rw [hread, ha]
    rfl
  refine ⟨fun v r r' hr => ?_, fun v r r' hr d hd hname => ?_, fun r => ?_⟩
  · rw [hread] at hr
    obtain ⟨a, ha, rfl⟩ := ok_of_map hr
    rw [set_own]
    exact takes_own v a ha
  · rw [hread] at hr
    obtain ⟨a, ha, rfl⟩ := ok_of_map hr
    obtain ⟨j, hj⟩ := List.mem_iff_getElem?.mp hd
    have other : i ≠ j := by
      rintro rfl
      rw [hi] at hj
      exact hname (congrArg (·.name) (Option.some.inj hj)).symm
    have written := getElem?_valuesOf hj (set a r)
    rw [own, List.getElem?_set_ne other, getElem?_valuesOf hj r] at written
    exact (Option.some.inj written).symm
  · rw [hwrite]
    exact takes_own _ _ (h (get r))

/-- Columns from a place on, each of which sets the value at its own place of all. -/
inductive Apart (all : List (Column ρ)) : Nat → List (Column ρ) → Prop where
  | done (i : Nat) : Apart all i []
  | needs {γ : Type} {name : String} {c : Codec γ} {get : ρ → γ} {set : γ → ρ → ρ} {i : Nat}
      {cs : List (Column ρ)} (h : c.Holds)
      (own : ∀ a r, valuesOf all (set a r) = (valuesOf all r).set i (c.write a))
      (rest : Apart all (i + 1) cs) : Apart all i (.needs name c get set :: cs)
  | default {γ : Type} {name : String} {c : Codec γ} {get : ρ → γ} {set : γ → ρ → ρ} {i : Nat}
      {cs : List (Column ρ)} (h : c.Holds)
      (own : ∀ a r, valuesOf all (set a r) = (valuesOf all r).set i (c.write a))
      (rest : Apart all (i + 1) cs) : Apart all i (.default name c get set :: cs)

theorem getElem?_of_drop {xs rest : List α} {i : Nat} {x : α} (h : xs.drop i = x :: rest) :
    xs[i]? = some x ∧ xs.drop (i + 1) = rest := by
  refine ⟨?_, ?_⟩
  · rw [← List.head?_drop, h]
    rfl
  · rw [← List.tail_drop, h]
    rfl

theorem Apart.separate {all cs : List (Column ρ)} {i : Nat} (h : Apart all i cs)
    (place : all.drop i = cs) : ∀ c ∈ cs, c.Separate all := by
  induction h with
  | done => nofun
  | needs h own _ ih =>
    obtain ⟨here, behind⟩ := getElem?_of_drop place
    have first := separate_of_set here (fun _ _ => rfl) (fun _ => rfl) h own
    exact List.forall_mem_cons.mpr ⟨first, ih behind⟩
  | default h own _ ih =>
    obtain ⟨here, behind⟩ := getElem?_of_drop place
    have first := separate_of_set here (fun _ _ => rfl) (fun _ => rfl) h own
    exact List.forall_mem_cons.mpr ⟨first, ih behind⟩

/-! ## Reading members into columns -/

/-- What a column has once members are set in a record: what it takes of the value that they
give it, or what it had. -/
def Column.Set (c : Column ρ) (value? : Option Json) (r r' : ρ) : Prop :=
  match value? with
  | none => c.write r' = c.write r
  | some v => c.Takes v (c.write r')

theorem Column.Set.of_write_eq {c : Column ρ} {value? : Option Json} {r s r' : ρ}
    (same : c.write s = c.write r) (h : c.Set value? s r') : c.Set value? r r' := by
  cases value? with
  | none => exact Eq.trans h same
  | some v => exact h

/-- Of two values set one after the other, the second stays where there is one. -/
theorem Column.Set.trans {c : Column ρ} {first? second? : Option Json} {r s t : ρ}
    (first : c.Set first? r s) (second : c.Set second? s t) : c.Set (second?.or first?) r t := by
  cases second? with
  | none =>
    cases first? with
    | none => exact Eq.trans second first
    | some v =>
      have same : c.write t = c.write s := second
      show c.Takes v (c.write t)
      rw [same]
      exact first
  | some w => exact second

theorem Column.Set.write_eq {c : Column ρ} {value? : Option Json} {r s t : ρ}
    (hs : c.Set value? r s) (ht : c.Set value? r t) : c.write s = c.write t := by
  cases value? with
  | none => exact Eq.trans hs (Eq.symm ht)
  | some v => exact Column.Takes.eq hs ht r

/-- Every column takes the value that it is given. -/
def Takeable (columns : List (Column ρ)) (value? : String → Option Json) : Prop :=
  ∀ c ∈ columns, ∀ v ∈ value? c.name, ∃ w, c.Takes v w

theorem Takeable.tail {columns : List (Column ρ)} {key : String} {v : Json} {ms : Members}
    (once : key ∉ ms.map (·.1)) (h : Takeable columns fun k => List.lookup k ((key, v) :: ms)) :
    Takeable columns fun k => ms.lookup k := by
  intro c hc w hw
  have other : c.name ≠ key := by
    rintro rfl
    exact once (Json.lookup_isSome.mp (Option.isSome_of_mem hw))
  refine h c hc w ?_
  show w ∈ List.lookup c.name ((key, v) :: ms)
  rw [Json.lookup_member, if_neg other]
  exact hw

section Members

variable {columns : List (Column ρ)} (names : (columns.map (·.name)).Nodup)
include names

theorem column_eq {c d : Column ρ} (hc : c ∈ columns) (hd : d ∈ columns) (h : c.name = d.name) :
    c = d :=
  List.inj_on_of_nodup_map names hc hd h

theorem find?_column {c : Column ρ} (hc : c ∈ columns) :
    ((columns.map Column.toField).find? fun f => f.name == c.name) = some c.toField := by
  refine find?_name ?_ (List.mem_map_of_mem hc)
  rwa [List.map_map]

/-- A member of a column is read where the column takes its value. -/
theorem readMembers_column {c : Column ρ} (hc : c ∈ columns) (v : Json) (ms : Members)
    {seen : List String} (fresh : c.name ∉ seen) (r : ρ) :
    readMembers (columns.map Column.toField) (Json.memberNodes ((c.name, v) :: ms)) seen r
      = match c.read v.node r with
        | .error e => .error e
        | .ok r' =>
          readMembers (columns.map Column.toField) (Json.memberNodes ms) (c.name :: seen) r' := by
  rw [Json.memberNodes, readMembers]
  simp only [String.ofList_toList, find?_column names hc]
  exact if_neg (by simpa using fresh)

omit names in
theorem fresh_cons {key : String} {ms : Members} {seen : List String}
    (once : key ∉ ms.map (·.1)) (fresh : ∀ m ∈ ms, m.1 ∉ seen) : ∀ m ∈ ms, m.1 ∉ key :: seen := by
  intro m hm h
  rcases List.mem_cons.mp h with same | h
  · exact once (List.mem_map.mpr ⟨m, hm, same⟩)
  · exact fresh m hm h

omit names in
/-- A member of no column has no effect. -/
theorem readMembers_unknown {key : String} (unknown : ∀ c ∈ columns, c.name ≠ key) (v : Json)
    (ms : Members) (seen : List String) (r : ρ) :
    readMembers (columns.map Column.toField) (Json.memberNodes ((key, v) :: ms)) seen r
      = readMembers (columns.map Column.toField) (Json.memberNodes ms) seen r := by
  have absent : ((columns.map Column.toField).find? fun f => f.name == key) = none := by
    refine List.find?_eq_none.mpr fun f hf => ?_
    obtain ⟨c, hc, rfl⟩ := List.mem_map.mp hf
    simpa using unknown c hc
  rw [Json.memberNodes, readMembers]
  simp only [String.ofList_toList, absent, Json.skip_node]

/-- Members that are read set each column as they give it a value. -/
theorem readMembers_set (separate : ∀ c ∈ columns, c.Separate columns) {ms : Members}
    (distinct : (ms.map (·.1)).Nodup) {seen seen' : List String} (fresh : ∀ m ∈ ms, m.1 ∉ seen)
    {r r' : ρ}
    (h : readMembers (columns.map Column.toField) (Json.memberNodes ms) seen r = .ok (seen', r')) :
    ∀ c ∈ columns, c.Set (ms.lookup c.name) r r' := by
  induction ms generalizing seen r with
  | nil =>
    cases h
    exact fun _ _ => rfl
  | cons m ms ih =>
    obtain ⟨key, v⟩ := m
    rw [List.map_cons, List.nodup_cons] at distinct
    rw [List.forall_mem_cons] at fresh
    obtain ⟨once, distinct⟩ := distinct
    obtain ⟨new, fresh⟩ := fresh
    intro d hd
    rw [Json.lookup_member]
    by_cases known : ∃ c ∈ columns, c.name = key
    · obtain ⟨c, hc, rfl⟩ := known
      rw [readMembers_column names hc v ms new] at h
      split at h
      · cases h
      · rename_i r1 hr1
        have rest := ih distinct (fresh_cons once fresh) h d hd
        by_cases same : d.name = c.name
        · -- the value is set here, and nothing behind it names the column again
          rw [Json.lookup_of_not_mem (same ▸ once)] at rest
          rw [if_pos same]
          obtain rfl := column_eq names hd hc same
          have taken := (separate d hd).takes v r r1 hr1
          rw [← rest] at taken
          exact taken
        · rw [if_neg same]
          exact rest.of_write_eq ((separate c hc).frame v r r1 hr1 d hd same)
    · have unknown : ∀ c ∈ columns, c.name ≠ key := fun c hc same => known ⟨c, hc, same⟩
      rw [readMembers_unknown unknown] at h
      rw [if_neg (unknown d hd)]
      exact ih distinct fresh h d hd

/-- Members are read when every column takes the value that they give it, and every column
that they name has then been seen. -/
theorem readMembers_accepts {ms : Members} (takeable : Takeable columns fun key => ms.lookup key)
    (distinct : (ms.map (·.1)).Nodup) {seen : List String} (fresh : ∀ m ∈ ms, m.1 ∉ seen) (r : ρ) :
    ∃ seen' r', readMembers (columns.map Column.toField) (Json.memberNodes ms) seen r
        = .ok (seen', r') ∧
      ∀ c ∈ columns, c.name ∈ seen ∨ c.name ∈ ms.map (·.1) → c.name ∈ seen' := by
  induction ms generalizing seen r with
  | nil => exact ⟨seen, r, rfl, fun c _ h => h.resolve_right List.not_mem_nil⟩
  | cons m ms ih =>
    obtain ⟨key, v⟩ := m
    rw [List.map_cons, List.nodup_cons] at distinct
    rw [List.forall_mem_cons] at fresh
    obtain ⟨once, distinct⟩ := distinct
    obtain ⟨new, fresh⟩ := fresh
    have rest := takeable.tail once
    by_cases known : ∃ c ∈ columns, c.name = key
    · obtain ⟨c, hc, rfl⟩ := known
      have here : v ∈ List.lookup c.name ((c.name, v) :: ms) := by
        rw [Json.lookup_member, if_pos rfl]
        rfl
      obtain ⟨w, taken⟩ := takeable c hc v here
      obtain ⟨r1, hr1, _⟩ := taken r
      obtain ⟨seen', r', read_, seen_⟩ := ih rest distinct (fresh_cons once fresh) r1
      refine ⟨seen', r', ?_, fun d hd h => seen_ d hd ?_⟩
      · rw [readMembers_column names hc v ms new, hr1]
        exact read_
      · rw [List.map_cons, List.mem_cons] at h
        rw [List.mem_cons]
        tauto
    · have unknown : ∀ c ∈ columns, c.name ≠ key := fun c hc same => known ⟨c, hc, same⟩
      obtain ⟨seen', r', read_, seen_⟩ := ih rest distinct fresh r
      refine ⟨seen', r', ?_, fun d hd h => seen_ d hd ?_⟩
      · rw [readMembers_unknown unknown]
        exact read_
      · rw [List.map_cons, List.mem_cons] at h
        exact h.imp id fun h => h.resolve_left (unknown d hd)

end Members

/-! ## Merging -/

/-- Columns with different names, each of which keeps to its own part. -/
structure Splits (columns : List (Column ρ)) : Prop where
  names : (columns.map (·.name)).Nodup
  separate : ∀ c ∈ columns, c.Separate columns

/-- An object is read as the record that its members give when no field is absent. -/
theorem Layout.read_object {l : Layout ρ} {members : List (Json.Content × Node)} {r : ρ} :
    l.read (.object members .closed) = .ok r ↔
      ∃ seen, readMembers l.fields members [] l.blank = .ok (seen, r) ∧
        firstAbsent? l.fields seen = none := by
  rw [Layout.read]
  cases readMembers l.fields members [] l.blank with
  | error e =>
    constructor
    · intro h
      cases h
    · rintro ⟨seen, h, -⟩
      cases h
  | ok result =>
    obtain ⟨seen, s⟩ := result
    cases habsent : firstAbsent? l.fields seen with
    | none =>
      constructor
      · intro h
        simp only [habsent] at h
        cases h
        exact ⟨seen, rfl, habsent⟩
      · rintro ⟨seen', h, -⟩
        cases h
        simp only [habsent]
        rfl
    | some field =>
      constructor
      · intro h
        simp only [habsent] at h
        cases h
      · rintro ⟨seen', h, none_⟩
        cases h
        rw [habsent] at none_
        cases none_

section Merge

variable {title : String} {blank : ρ} {columns : List (Column ρ)}

theorem lookup_written (split : Splits columns) (fields : Members) (r : ρ)
    {c : Column ρ} (hc : c ∈ columns) :
    (withGiven (columns.map fun d => (d.name, d.write r)) fields).lookup c.name
      = (given fields c.name).or (some (c.write r)) := by
  have own : given (columns.map fun d => (d.name, d.write r)) c.name = some (c.write r) := by
    refine Json.given_of_mem (m := (c.name, c.write r)) ?_ (List.mem_map.mpr ⟨c, hc, rfl⟩)
    rw [List.map_map]
    exact split.names
  rw [Json.lookup_withGiven, own]

/-- A merged record has in each column what the members give it, or what it had. -/
theorem set_of_merge (split : Splits columns) {fields : Members} {r r' : ρ}
    (h : (codecOf title blank columns).merge fields r = .ok r') :
    ∀ c ∈ columns, c.Set (given fields c.name) r r' := by
  change Layout.read _ (.object (Json.memberNodes (withGiven _ fields)) .closed) = _ at h
  obtain ⟨seen, read_, _⟩ := Layout.read_object.mp h
  intro c hc
  have set_ := readMembers_set split.names split.separate (Json.isMap_withGiven _ fields).nodup
    (fun _ _ => List.not_mem_nil) read_ c hc
  rw [lookup_written split fields r hc] at set_
  cases hv : given fields c.name with
  | some v =>
    rw [hv] at set_
    exact set_
  | none =>
    -- the column reads back what it wrote
    rw [hv] at set_
    exact Column.Takes.eq set_ ((split.separate c hc).holds r) r

/-- Members are set in any record when every column takes the value that they give it. -/
theorem merge_accepts (title : String) (blank : ρ) (split : Splits columns) {fields : Members}
    (takeable : Takeable columns (given fields)) (r : ρ) :
    ∃ r', (codecOf title blank columns).merge fields r = .ok r' := by
  have all : Takeable columns fun key =>
      (withGiven (columns.map fun d => (d.name, d.write r)) fields).lookup key := by
    intro c hc v hv
    change v ∈ (withGiven _ fields).lookup c.name at hv
    rw [lookup_written split fields r hc] at hv
    cases hg : given fields c.name with
    | some w =>
      rw [hg] at hv
      exact takeable c hc v (hg ▸ hv)
    | none =>
      rw [hg] at hv
      cases hv
      exact ⟨_, (split.separate c hc).holds r⟩
  obtain ⟨seen, r', read_, seen_⟩ := readMembers_accepts split.names all
    (Json.isMap_withGiven _ fields).nodup (fun _ _ => List.not_mem_nil) blank
  have present : ∀ f ∈ columns.map Column.toField, f.name ∈ seen := by
    intro f hf
    obtain ⟨c, hc, rfl⟩ := List.mem_map.mp hf
    refine seen_ c hc (.inr ?_)
    refine Json.lookup_isSome.mp ?_
    rw [lookup_written split fields r hc, Option.isSome_or, Option.isSome_some, Bool.or_true]
  exact ⟨r', Layout.read_object.mpr ⟨seen, read_, firstAbsent?_eq_none present⟩⟩

/-- Whether members are accepted does not depend on the record. -/
theorem merge_isOk (split : Splits columns) (fields : Members) (r : ρ) :
    ((codecOf title blank columns).merge fields r).isOk ↔ Takeable columns (given fields) := by
  refine ⟨fun accepted c hc v hv => ?_, fun takeable => ?_⟩
  · cases h : (codecOf title blank columns).merge fields r with
    | error e =>
      rw [h] at accepted
      cases accepted
    | ok r' =>
      have set_ := set_of_merge split h c hc
      rw [Option.mem_def.mp hv] at set_
      exact ⟨c.write r', set_⟩
  · obtain ⟨r', h⟩ := merge_accepts title blank split takeable r
    rw [h]
    rfl

end Merge

/-- A record with members set in it, or as it was when they are refused. -/
def Codec.patched (c : Codec ρ) (fields : Members) (r : ρ) : ρ :=
  match c.merge fields r with
  | .error _ => r
  | .ok r' => r'

section Patched

variable {title : String} {blank : ρ} {columns : List (Column ρ)}

/-- A record has in each column what accepted members give it, or what it had. -/
theorem patched_given (split : Splits columns) {fields : Members}
    (takeable : Takeable columns (given fields)) (r : ρ) :
    ∀ c ∈ columns,
      c.Set (given fields c.name) r ((codecOf title blank columns).patched fields r) := by
  obtain ⟨r', h⟩ := merge_accepts title blank split takeable r
  have result : (codecOf title blank columns).patched fields r = r' := by
    rw [Codec.patched, h]
  rw [result]
  exact set_of_merge split h

/-- What members set does not depend on the record: there are values that every patched record
has in the columns they are for, whatever it was, and the members that are not given are not
among them. -/
theorem patched_set (title : String) (blank : ρ) (split : Splits columns) (fields : Members) :
    ∃ value? : String → Option Json, (∀ key, given fields key = none → value? key = none) ∧
      ∀ r, ∀ c ∈ columns,
        c.Set (value? c.name) r ((codecOf title blank columns).patched fields r) := by
  by_cases takeable : Takeable columns (given fields)
  · exact ⟨given fields, fun _ h => h, patched_given split takeable⟩
  · -- refused members set nothing in any record
    refine ⟨fun _ => none, fun _ _ => rfl, fun r c _ => ?_⟩
    cases h : (codecOf title blank columns).merge fields r with
    | error e =>
      have result : (codecOf title blank columns).patched fields r = r := by
        rw [Codec.patched, h]
      rw [result]
      rfl
    | ok r' =>
      have accepted : ((codecOf title blank columns).merge fields r).isOk := by
        rw [h]
        rfl
      exact absurd ((merge_isOk split fields r).mp accepted) takeable

/-- A record type is told by what its columns write. -/
theorem eq_of_columns (lawful : (codecOf title blank columns).Lawful) {r s : ρ}
    (h : ∀ c ∈ columns, c.write r = c.write s) : r = s := by
  have written : (codecOf title blank columns).write r = (codecOf title blank columns).write s := by
    refine congrArg Json.object (List.map_congr_left fun c hc => ?_)
    rw [h c hc]
  have read_ := lawful.read r
  rw [written, lawful.read s] at read_
  exact (Except.ok.inj read_).symm

/-- Members that are set again behind others have the last word, as if they had not been set
in front of these. -/
theorem patched_absorbs (split : Splits columns) (lawful : (codecOf title blank columns).Lawful)
    (f g : Members) (r : ρ) :
    let patched := (codecOf title blank columns).patched
    patched f (patched g (patched f r)) = patched f (patched g r) := by
  intro patched
  obtain ⟨vf, -, setF⟩ := patched_set title blank split f
  obtain ⟨vg, -, setG⟩ := patched_set title blank split g
  refine eq_of_columns lawful fun c hc => ?_
  have all := ((setF r c hc).trans (setG _ c hc)).trans (setF _ c hc)
  have last := (setG r c hc).trans (setF _ c hc)
  have hidden : (vf c.name).or ((vg c.name).or (vf c.name)) = (vf c.name).or (vg c.name) := by
    cases vf c.name <;> simp
  rw [hidden] at all
  exact all.write_eq last

/-- Setting members twice is setting them once. -/
theorem patched_patched (split : Splits columns) (lawful : (codecOf title blank columns).Lawful)
    (f : Members) (r : ρ) :
    let patched := (codecOf title blank columns).patched
    patched f (patched f r) = patched f r := by
  intro patched
  obtain ⟨vf, -, setF⟩ := patched_set title blank split f
  refine eq_of_columns lawful fun c hc => ?_
  have twice := (setF r c hc).trans (setF _ c hc)
  rw [Option.or_self] at twice
  exact twice.write_eq (setF r c hc)

/-- Accepted members that are set one after the other are set as those are that give each column
what the second ones give it, or the first ones. -/
theorem patched_overlay (split : Splits columns) (lawful : (codecOf title blank columns).Lawful)
    {f g both : Members} (hf : Takeable columns (given f)) (hg : Takeable columns (given g))
    (overlay : ∀ key, given both key = (given g key).or (given f key)) (r : ρ) :
    let patched := (codecOf title blank columns).patched
    Takeable columns (given both) ∧ patched g (patched f r) = patched both r := by
  intro patched
  have takeable : Takeable columns (given both) := by
    intro c hc v hv
    rw [overlay, Option.mem_def, Option.or_eq_some_iff] at hv
    rcases hv with hv | ⟨-, hv⟩
    · exact hg c hc v hv
    · exact hf c hc v hv
  refine ⟨takeable, eq_of_columns lawful fun c hc => ?_⟩
  have inTurn : c.Set ((given g c.name).or (given f c.name)) r (patched g (patched f r)) :=
    (patched_given split hf r c hc).trans (patched_given split hg _ c hc)
  rw [← overlay] at inTurn
  exact inTurn.write_eq (patched_given split takeable r c hc)

end Patched

end Flotilla.Record
