import Flotilla.Proofs.Json.RoundTrip
import Flotilla.Record.Layout

/-! # Codecs that read back what they write

A lawful codec reads each value back from the tree of its written form. The codecs of
single values are lawful, options and lists of lawful codecs are, and a record is when
its columns have different names and restore it, one after the other, from the blank
record. -/
namespace Flotilla.Record

open Flotilla.Json (Node Plain)

variable {α β ρ : Type}

/-- A codec that reads back what it writes, and writes no doubles. -/
structure Codec.Lawful (c : Codec α) : Prop where
  plain : ∀ a, (c.write a).Plain
  read : ∀ a, c.read (c.write a).tree = .ok a

/-! ## Single values -/

theorem readInt_ok {low high z : Int} (hl : low ≤ z) (hh : z ≤ high) (expected : String) :
    readInt low high expected (Json.int z).tree = .ok z :=
  if_pos ⟨hl, hh⟩

theorem int64_lawful : int64.Lawful where
  plain x := by
    have := x.toInt_le
    rw [Int64.toInt_maxValue] at this
    exact ⟨x.le_toInt, by change x.toInt < 18446744073709551616; omega⟩
  read x := by
    show (readInt _ _ _ (Json.int x.toInt).tree).map Int64.ofInt = _
    rw [readInt_ok x.minValue_le_toInt x.toInt_le]
    exact congrArg Except.ok x.ofInt_toInt

theorem count_lawful : count.Lawful where
  plain n := by
    have := n.toNat_lt
    exact ⟨by rw [Int64.toInt_minValue]; omega, Int.ofNat_lt.mpr this⟩
  read n := by
    have hn := n.toNat_lt
    show (readInt _ _ _ (Json.int n.toNat).tree).map (fun z => UInt64.ofNat z.toNat) = _
    rw [readInt_ok (Int.natCast_nonneg _) (Int.ofNat_le.mpr (Nat.le_sub_one_of_lt hn))]
    exact congrArg Except.ok n.ofNat_toNat

theorem bool_lawful : bool.Lawful where
  plain _ := trivial
  read _ := rfl

theorem text_lawful : text.Lawful where
  plain _ := trivial
  read s := congrArg Except.ok s.ofList_toList

/-- A codec of another type, through two functions of which the first undoes the second. -/
theorem Codec.Lawful.via {c : Codec α} (h : c.Lawful) {f : α → β} {g : β → α}
    (hfg : ∀ b, f (g b) = b) :
    (Codec.mk (fun n => (c.read n).map f) fun b => c.write (g b)).Lawful where
  plain b := h.plain (g b)
  read b := by
    show (c.read (c.write (g b)).tree).map f = _
    rw [h.read]
    exact congrArg Except.ok (hfg b)

/-! ## Options and lists -/

theorem Codec.Lawful.option {c : Codec α} (h : c.Lawful) (hnull : ∀ a, c.write a ≠ .null) :
    c.option.Lawful where
  plain o := by
    cases o with
    | none => trivial
    | some a => exact h.plain a
  read o := by
    cases o with
    | none => rfl
    | some a =>
      have hread := h.read a
      show readOption c.read (c.write a).tree = _
      cases hw : c.write a with
      | null => exact absurd hw (hnull a)
      | _ => rw [hw] at hread; exact congrArg (Except.map some) hread

theorem plainElements_map {c : Codec α} (h : c.Lawful) (as : List α) :
    Json.PlainElements (as.map c.write) := by
  induction as with
  | nil => trivial
  | cons a as ih => exact ⟨h.plain a, ih⟩

theorem readEach_map {c : Codec α} (h : c.Lawful) (as : List α) :
    readEach c.read (Json.trees (as.map c.write)) = .ok as := by
  induction as with
  | nil => rfl
  | cons a as ih =>
    rw [List.map_cons, Json.trees, readEach, h.read]
    exact congrArg (Except.map (a :: ·)) ih

theorem Codec.Lawful.list {c : Codec α} (h : c.Lawful) : c.list.Lawful where
  plain as := plainElements_map h as
  read as := by
    show readList c.read (.list (Json.trees (as.map c.write)) .closed) = _
    rw [readList, readEach_map h]
    rfl

/-! ## Records -/

/-- Columns of lawful codecs that, one after the other, turn one record into another by setting
what they write of a record. -/
inductive Restores (r : ρ) : List (Column ρ) → ρ → ρ → Prop where
  | done (r' : ρ) : Restores r [] r' r'
  | needs {γ : Type} {name : String} {c : Codec γ} {get : ρ → γ} {set : γ → ρ → ρ}
      {cs : List (Column ρ)} {r' r'' : ρ} (h : c.Lawful) (rest : Restores r cs (set (get r) r') r'') :
      Restores r (.needs name c get set :: cs) r' r''
  | default {γ : Type} {name : String} {c : Codec γ} {get : ρ → γ} {set : γ → ρ → ρ}
      {cs : List (Column ρ)} {r' r'' : ρ} (h : c.Lawful) (rest : Restores r cs (set (get r) r') r'') :
      Restores r (.default name c get set :: cs) r' r''

theorem Restores.plain {r r' r'' : ρ} {columns : List (Column ρ)}
    (h : Restores r columns r' r'') : ∀ c ∈ columns, (c.write r).Plain := by
  induction h with
  | done => nofun
  | needs h _ ih => exact List.forall_mem_cons.mpr ⟨h.plain _, ih⟩
  | default h _ ih => exact List.forall_mem_cons.mpr ⟨h.plain _, ih⟩

/-- Reads columns, one after the other, from what they write of a record. -/
def restore (r : ρ) : List (Column ρ) → ρ → Reading ρ
  | [], r' => .ok r'
  | c :: cs, r' =>
    match c.read (c.write r).tree r' with
    | .error e => .error e
    | .ok r' => restore r cs r'

theorem read_write_column {c : Codec α} (h : c.Lawful) (name : String) (get : ρ → α)
    (set : α → ρ → ρ) (r r' : ρ) :
    (Column.needs name c get set).read ((Column.needs name c get set).write r).tree r'
      = .ok (set (get r) r') := by
  show (c.read (c.write (get r)).tree).map (set · r') = _
  rw [h.read]
  rfl

theorem Restores.restore {r r' r'' : ρ} {columns : List (Column ρ)}
    (h : Restores r columns r' r'') : restore r columns r' = .ok r'' := by
  induction h with
  | done => rfl
  | needs h _ ih => simp only [Record.restore, read_write_column h, ih]
  | @default _ name c get set _ r' _ h _ ih =>
    have read_ : (Column.default name c get set).read ((Column.default name c get set).write r).tree
        r' = .ok (set (get r) r') := read_write_column h name get set r r'
    simp only [Record.restore, read_, ih]

theorem find?_name {fields : List (Field ρ)} (names : (fields.map (·.name)).Nodup) {f : Field ρ}
    (hf : f ∈ fields) : (fields.find? fun g => g.name == f.name) = some f := by
  induction fields with
  | nil => cases hf
  | cons g fields ih =>
    obtain ⟨hg, names⟩ := List.nodup_cons.mp names
    by_cases h : g.name = f.name
    · rw [List.find?_cons_of_pos (by simpa using h)]
      rcases List.mem_cons.mp hf with rfl | hf
      · rfl
      · exact absurd (List.mem_map.mpr ⟨f, hf, h.symm⟩) hg
    · rw [List.find?_cons_of_neg (by simpa using h)]
      rcases List.mem_cons.mp hf with rfl | hf
      · exact absurd rfl h
      · exact ih names hf

/-- What columns write of a record, as the members of a tree. -/
def columnTrees (columns : List (Column ρ)) (r : ρ) : List (Json.Content × Node) :=
  columns.map fun c => (.ok c.name.toList, (c.write r).tree)

theorem memberTrees_map (columns : List (Column ρ)) (r : ρ) :
    Json.memberTrees (columns.map fun c => (c.name, c.write r)) = columnTrees columns r := by
  induction columns with
  | nil => rfl
  | cons c columns ih => rw [List.map_cons, Json.memberTrees, ih]; rfl

/-- Reading what columns write restores them, and has then seen their names. -/
theorem readMembers_columnTrees {fields : List (Field ρ)} (names : (fields.map (·.name)).Nodup)
    {columns : List (Column ρ)} (hc : ∀ c ∈ columns, c.toField ∈ fields)
    (hnames : (columns.map (·.name)).Nodup) {seen : List String}
    (hseen : ∀ c ∈ columns, c.name ∉ seen) (r r' : ρ) :
    readMembers fields (columnTrees columns r) seen r'
      = (restore r columns r').map fun r'' => ((columns.map (·.name)).reverse ++ seen, r'') := by
  -- the names already seen are never those of the columns still to come
  induction columns generalizing seen r' with
  | nil => rfl
  | cons c columns ih =>
    obtain ⟨hfield, hc⟩ := List.forall_mem_cons.mp hc
    obtain ⟨hname, hnames⟩ := List.nodup_cons.mp hnames
    obtain ⟨hnew, hseen⟩ := List.forall_mem_cons.mp hseen
    show readMembers fields ((.ok c.name.toList, (c.write r).tree) :: columnTrees columns r) seen r'
      = _
    rw [readMembers]
    simp only [String.ofList_toList, find?_name names hfield]
    rw [if_neg (by simpa using hnew), restore]
    cases c.read (c.write r).tree r' with
    | error e => rfl
    | ok r' =>
      have fresh : ∀ d ∈ columns, d.name ∉ c.name :: seen := fun d hd hmem =>
        (List.mem_cons.mp hmem).elim (fun h => hname (List.mem_map.mpr ⟨d, hd, h⟩)) (hseen d hd)
      rw [List.map_cons, List.reverse_cons, List.append_assoc]
      exact ih hc hnames fresh r'

theorem firstAbsent?_eq_none {fields : List (Field ρ)} {seen : List String}
    (h : ∀ f ∈ fields, f.name ∈ seen) : firstAbsent? fields seen = none := by
  refine List.find?_eq_none.mpr fun f hf => ?_
  simp [h f hf]

theorem plainMembers_map {columns : List (Column ρ)} {r : ρ}
    (h : ∀ c ∈ columns, (c.write r).Plain) :
    Json.PlainMembers (columns.map fun c => (c.name, c.write r)) := by
  induction columns with
  | nil => trivial
  | cons c columns ih =>
    obtain ⟨hc, h⟩ := List.forall_mem_cons.mp h
    exact ⟨hc, ih h⟩

/-- A record type is read back when its columns have different names and restore each record
from the blank one. -/
theorem codecOf_lawful {title : String} {blank : ρ} {columns : List (Column ρ)}
    (names : (columns.map (·.name)).Nodup) (restores : ∀ r, Restores r columns blank r) :
    (codecOf title blank columns).Lawful where
  plain r := plainMembers_map (restores r).plain
  read r := by
    have fieldNames : ((columns.map Column.toField).map (·.name)).Nodup := by
      rwa [List.map_map]
    have unseen : ∀ c ∈ columns, c.name ∉ [] := fun _ _ => List.not_mem_nil
    have members := readMembers_columnTrees fieldNames
      (fun c hc => List.mem_map_of_mem hc) names unseen r blank
    rw [(restores r).restore] at members
    show Layout.read _ (.object (Json.memberTrees _) .closed) = _
    rw [memberTrees_map, Layout.read]
    simp only [members, Except.map]
    have all : ∀ f ∈ columns.map Column.toField, f.name ∈ (columns.map (·.name)).reverse ++ [] := by
      intro f hf
      obtain ⟨c, hc, rfl⟩ := List.mem_map.mp hf
      simpa using ⟨c, hc, rfl⟩
    rw [firstAbsent?_eq_none all]
    rfl

/-- What a lawful codec writes is read from its text. -/
theorem Codec.Lawful.readText?_pretty {c : Codec α} (h : c.Lawful) (a : α) :
    readText? c.read (c.write a).pretty = .ok a := by
  simp only [readText?, Json.read_pretty (h.plain a), h.read]
  rfl

end Flotilla.Record
