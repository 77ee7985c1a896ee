import Mathlib.Data.List.Forall2
import Mathlib.Data.List.Nodup
import Flotilla.Proofs.Record.Reading

/-! # Where the parts of a record come from

A record is given by name or by place. In either form a part of it is what the tree gives for its
field: no other field sets that part, and a second value under the same name is refused. Where the
tree gives nothing for the field, the part is that of the blank record. -/
namespace Flotilla.Record

open Flotilla.Json (Node ListEnd)

variable {α ρ : Type}

/-- A member with a name as its key. -/
def isNamed (name : String) : Json.Content × Node → Bool
  | (.ok cs, _) => String.ofList cs == name
  | (.error _, _) => false

/-- What a tree gives for the field with a name and a place. -/
def valueOf? (name : String) (place : Nat) : Node → Option Node
  | .object members _ => (members.find? (isNamed name)).map (·.2)
  | .list elements _ => elements[place]?
  | _ => none

/-- A field that fills a part of the record with what it reads. -/
def Field.Fills (f : Field ρ) (read : Reader α) (get : ρ → α) : Prop :=
  ∀ n r r', f.read n r = .ok r' → read n = .ok (get r')

theorem Field.fills_default {name : String} {read : Reader α} {set : α → ρ → ρ} {get : ρ → α}
    (h : ∀ a r, get (set a r) = a) : (Field.default name read set).Fills read get := by
  intro n r r' hr
  obtain ⟨a, ha, rfl⟩ := ok_of_map hr
  rw [ha, h]

/-- A field that sets other parts of the record only. -/
def Field.Spares (f : Field ρ) (get : ρ → α) : Prop :=
  ∀ a, f.Keeps (get · = a)

@[simp] theorem Field.spares_default {β : Type} {name : String} {read : Reader β} {set : β → ρ → ρ}
    {get : ρ → α} (h : ∀ b r, get (set b r) = get r) : (Field.default name read set).Spares get :=
  fun _ => Field.frame_default fun b r held => (h b r).trans held

@[simp] theorem Field.spares_needs {β : Type} {name : String} {read : Reader β} {set : β → ρ → ρ}
    {get : ρ → α} (h : ∀ b r, get (set b r) = get r) : (Field.needs name read set).Spares get :=
  fun _ => Field.frame_needs fun b r held => (h b r).trans held

/-- A part of a record that belongs to the field with a name and a place: this one fills it and the
others spare it. -/
structure Layout.Owns (l : Layout ρ) (name : String) (place : Nat) (read : Reader α)
    (get : ρ → α) : Prop where
  distinct : (l.fields.map (·.name)).Nodup
  fills : ∃ f, l.fields[place]? = some f ∧ f.name = name ∧ f.Fills read get
  spares : ∀ f ∈ l.fields, f.name ≠ name → f.Spares get

/-- A field owns the part that it sets when the fields at the other places spare it. -/
theorem Layout.owns_default {l : Layout ρ} {name : String} {place : Nat} {read : Reader α}
    {set : α → ρ → ρ} {get : ρ → α} (distinct : (l.fields.map (·.name)).Nodup)
    (here : l.fields[place]? = some (.default name read set)) (fills : ∀ a r, get (set a r) = a)
    (spares : ∀ f ∈ l.fields.eraseIdx place, f.Spares get) : l.Owns name place read get where
  distinct := distinct
  fills := ⟨_, here, rfl, Field.fills_default fills⟩
  spares f hf other := by
    obtain ⟨i, hi, rfl⟩ := List.mem_iff_getElem.mp hf
    refine spares _ (List.mem_eraseIdx_iff_getElem.mpr ⟨i, hi, fun same => other ?_, rfl⟩)
    subst same
    rw [Option.some.inj ((List.getElem?_eq_getElem hi).symm.trans here)]
    rfl

/-! ## By name -/

section Members

variable {fields : List (Field ρ)} {members : List (Json.Content × Node)} {seen seen' : List String}
  {r r' : ρ} {name : String} {read : Reader α} {get : ρ → α}
  (spares : ∀ f ∈ fields, f.name ≠ name → f.Spares get)

include spares

/-- A part whose field has been seen stays as it is. -/
theorem readMembers_of_seen (h : readMembers fields members seen r = .ok (seen', r'))
    (before : name ∈ seen) : get r' = get r := by
  induction members generalizing seen r with
  | nil => cases h; rfl
  | cons m members ih =>
    obtain ⟨cs, -, ⟨-, rest⟩ | ⟨f, hf, -, fresh, r₁, read, rest⟩⟩ := readMembers_cons h
    · exact ih rest before
    · have other : f.name ≠ name := fun same => fresh (same ▸ before)
      rw [ih rest (List.mem_cons_of_mem _ before)]
      exact spares f hf other _ _ r r₁ rfl read

/-- A part is what the first member with the name of its field gives. -/
theorem readMembers_value {own : Field ρ} (here : own ∈ fields) (named : own.name = name)
    (only : ∀ f ∈ fields, f.name = name → f = own) (fills : own.Fills read get)
    (h : readMembers fields members seen r = .ok (seen', r')) {m : Json.Content × Node}
    (first : members.find? (isNamed name) = some m) : read m.2 = .ok (get r') := by
  induction members generalizing seen r with
  | nil => cases first
  | cons n members ih =>
    obtain ⟨key, value⟩ := n
    obtain ⟨cs, rfl, step⟩ := readMembers_cons h
    by_cases same : String.ofList cs = name
    · have found : isNamed name (.ok cs, value) = true := by simp [isNamed, same]
      rw [List.find?_cons_of_pos found] at first
      obtain rfl := Option.some.inj first
      obtain ⟨unknown, -⟩ | ⟨f, hf, given, -, r₁, read, rest⟩ := step
      · exact absurd (named.trans same.symm) (unknown own here)
      · -- behind this member the name has been seen, so the part stays
        obtain rfl := only f hf (given.trans same)
        rw [readMembers_of_seen spares rest (named ▸ List.mem_cons_self)]
        exact fills _ _ _ read
    · have skipped : ¬ isNamed name (.ok cs, value) = true := by simp [isNamed, same]
      rw [List.find?_cons_of_neg skipped] at first
      obtain ⟨-, rest⟩ | ⟨f, -, -, -, r₁, -, rest⟩ := step
      · exact ih rest first
      · exact ih rest first

/-- A part whose field no member names stays as it is. -/
theorem readMembers_of_unnamed (h : readMembers fields members seen r = .ok (seen', r'))
    (unnamed : members.find? (isNamed name) = none) : get r' = get r := by
  induction members generalizing seen r with
  | nil => cases h; rfl
  | cons m members ih =>
    obtain ⟨key, value⟩ := m
    obtain ⟨first, later⟩ := List.forall_mem_cons.mp (List.find?_eq_none.mp unnamed)
    have later := List.find?_eq_none.mpr later
    obtain ⟨cs, rfl, ⟨-, rest⟩ | ⟨f, hf, given, -, r₁, read, rest⟩⟩ := readMembers_cons h
    · exact ih rest later
    · have other : f.name ≠ name := fun same => first (by simp [isNamed, ← given, same])
      rw [ih rest later]
      exact spares f hf other _ _ r r₁ rfl read

end Members

/-! ## By place -/

/-- A part is what stands at the place of its field. -/
theorem readPlaces_value {title : String} {place start length : Nat} {last : ListEnd}
    {fields : List (Field ρ)} {ns : List Node} {r r' : ρ} {name : String} {read : Reader α}
    {get : ρ → α} (distinct : (fields.map (·.name)).Nodup) {own : Field ρ}
    (here : fields[place]? = some own) (named : own.name = name) (fills : own.Fills read get)
    (spares : ∀ f ∈ fields, f.name ≠ name → f.Spares get)
    (h : readPlaces title start length last fields ns r = .ok r') {v : Node}
    (there : ns[place]? = some v) : read v = .ok (get r') := by
  induction fields generalizing place start ns r with
  | nil => cases here
  | cons f fields ih =>
    cases ns with
    | nil => cases there
    | cons n ns =>
      obtain ⟨r₁, read₁, rest⟩ := readPlaces_cons h
      obtain ⟨fresh, distinct⟩ := List.nodup_cons.mp distinct
      cases place with
      | zero =>
        obtain rfl := Option.some.inj there
        obtain rfl := Option.some.inj here
        -- no later field has the name, so each of them keeps the part
        have later : ∀ g ∈ fields, g.Keeps (get · = get r₁) := fun g hg =>
          spares g (List.mem_cons_of_mem _ hg)
            (fun same => fresh (List.mem_map.mpr ⟨g, hg, same.trans named.symm⟩)) _
        rw [readPlaces_keeps later rfl rest]
        exact fills _ _ _ read₁
      | succ place =>
        exact ih distinct here (fun g hg => spares g (List.mem_cons_of_mem _ hg)) rest there

/-- Without elements every part stays as it is. -/
theorem eq_of_readPlaces_nil {title : String} {start length : Nat} {last : ListEnd}
    {fields : List (Field ρ)} {r r' : ρ}
    (h : readPlaces title start length last fields [] r = .ok r') : r' = r := by
  induction fields generalizing start with
  | nil =>
    obtain ⟨_, -, rfl⟩ := ok_of_map h
    rfl
  | cons f fields ih =>
    simp only [readPlaces] at h
    split at h
    · cases h
    · split at h
      · cases h
      · exact ih h

/-- A part whose field stands behind the last element stays as it is. -/
theorem readPlaces_of_short {title : String} {place start length : Nat} {last : ListEnd}
    {fields : List (Field ρ)} {ns : List Node} {r r' : ρ} {name : String} {get : ρ → α}
    (distinct : (fields.map (·.name)).Nodup) {own : Field ρ} (here : fields[place]? = some own)
    (named : own.name = name) (spares : ∀ f ∈ fields, f.name ≠ name → f.Spares get)
    (h : readPlaces title start length last fields ns r = .ok r') (short : ns[place]? = none) :
    get r' = get r := by
  induction fields generalizing place start ns r with
  | nil => cases here
  | cons f fields ih =>
    cases ns with
    | nil => rw [eq_of_readPlaces_nil h]
    | cons n ns =>
      obtain ⟨r₁, read, rest⟩ := readPlaces_cons h
      obtain ⟨fresh, distinct⟩ := List.nodup_cons.mp distinct
      cases place with
      | zero => cases short
      | succ place =>
        have later : own ∈ fields := List.mem_of_getElem? here
        have other : f.name ≠ name := fun same =>
          fresh (List.mem_map.mpr ⟨own, later, named.trans same.symm⟩)
        rw [ih distinct here (fun g hg => spares g (List.mem_cons_of_mem _ hg)) rest short]
        exact spares f List.mem_cons_self other _ _ r r₁ rfl read

/-! ## Records -/

variable {l : Layout ρ} {name : String} {place : Nat} {read : Reader α} {get : ρ → α}

/-- A part of a record is what the tree gives for its field. -/
theorem Layout.Owns.value (h : l.Owns name place read get) {n v : Node} {r : ρ}
    (hr : l.read n = .ok r) (hv : valueOf? name place n = some v) : read v = .ok (get r) := by
  obtain ⟨own, place_, named, fills⟩ := h.fills
  cases n with
  | object members last =>
    have here : own ∈ l.fields := List.mem_of_getElem? place_
    have only : ∀ f ∈ l.fields, f.name = name → f = own := fun f hf same =>
      List.inj_on_of_nodup_map h.distinct hf here (same.trans named.symm)
    obtain ⟨m, first, rfl⟩ := Option.map_eq_some_iff.mp hv
    obtain ⟨seen, members_⟩ := readMembers_of_read hr
    exact readMembers_value h.spares here named only fills members_ first
  | list elements last => exact readPlaces_value h.distinct place_ named fills h.spares hr hv
  | _ => cases hv

/-- A part of a record is what the text gives for its field. -/
theorem Layout.Owns.text (h : l.Owns name place read get) {text : String} {r : ρ}
    (hr : readText? l.read text = .ok r) {v : Node}
    (hv : valueOf? name place (Json.Document.read text.toList).root = some v) :
    read v = .ok (get r) :=
  h.value (read_of_readText? hr) hv

/-- A part for whose field the tree gives nothing is that of the blank record. -/
theorem Layout.Owns.absent (h : l.Owns name place read get) {n : Node} {r : ρ}
    (hr : l.read n = .ok r) (none : valueOf? name place n = none) : get r = get l.blank := by
  obtain ⟨own, place_, named, -⟩ := h.fills
  cases n with
  | object members last =>
    obtain ⟨seen, members_⟩ := readMembers_of_read hr
    exact readMembers_of_unnamed h.spares members_ (Option.map_eq_none_iff.mp none)
  | list elements last => exact readPlaces_of_short h.distinct place_ named h.spares hr none
  | _ => simp only [Layout.read, mismatch] at hr; split at hr <;> cases hr

/-! ## Optional parts and lists -/

/-- A tree is read as a value. -/
def Reads (read : Reader α) (n : Node) (a : α) : Prop := read n = .ok a

/-- What a tree gives for a field that may be null. -/
def presentIn (name : String) (place : Nat) (n : Node) : Option Node :=
  match valueOf? name place n with
  | some .null => none
  | v => v

/-- The elements of the list that a tree gives for a field. -/
def listedIn (name : String) (place : Nat) (n : Node) : List Node :=
  match valueOf? name place n with
  | some (.list elements _) => elements
  | _ => []

theorem reads_of_readEach {ns : List Node} {as : List α} (h : readEach read ns = .ok as) :
    List.Forall₂ (Reads read) ns as := by
  induction ns generalizing as with
  | nil => cases h; exact .nil
  | cons n ns ih =>
    simp only [readEach] at h
    split at h
    · cases h
    · rename_i a ha
      obtain ⟨as, rest, rfl⟩ := ok_of_map h
      exact .cons ha (ih rest)

/-- An optional part is there when the tree gives it, and is read from what the tree gives. -/
theorem Layout.Owns.reads_option {get : ρ → Option α} (h : l.Owns name place (readOption read) get)
    (blank : get l.blank = none) {n : Node} {r : ρ} (hr : l.read n = .ok r) :
    List.Forall₂ (Reads read) (presentIn name place n).toList (get r).toList := by
  unfold presentIn
  cases hv : valueOf? name place n with
  | none =>
    rw [h.absent hr hv, blank]
    exact .nil
  | some v =>
    have value := h.value hr hv
    cases v with
    | null =>
      obtain same := Except.ok.inj value
      rw [← same]
      exact .nil
    | _ =>
      obtain ⟨a, given, same⟩ := ok_of_map value
      rw [← same]
      exact .cons given .nil

/-- The elements of a part are read from the elements of the list that the tree gives for it. -/
theorem Layout.Owns.reads_list {get : ρ → List α} (h : l.Owns name place (readList read) get)
    (blank : get l.blank = []) {n : Node} {r : ρ} (hr : l.read n = .ok r) :
    List.Forall₂ (Reads read) (listedIn name place n) (get r) := by
  unfold listedIn
  cases hv : valueOf? name place n with
  | none =>
    rw [h.absent hr hv, blank]
    exact .nil
  | some v =>
    have value := h.value hr hv
    cases v with
    | list elements last =>
      simp only [readList] at value
      split at value
      · cases value
      · cases value
      · rename_i as each _
        cases value
        exact reads_of_readEach each
    | _ => simp only [readList, mismatch] at value; split at value <;> cases value

end Flotilla.Record
