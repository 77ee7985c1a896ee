import Flotilla.Record.Layout

/-! # What reading gives

A property that the blank record has, and that every field keeps when it sets its
part, holds of each record that is read: whether it stood in the text as an object or
as a list, with fields left out, and with unknown ones between them. -/
namespace Flotilla.Record
open Flotilla.Json (Node ListEnd)

variable {α β ρ : Type} {P : α → Prop} {Q : ρ → Prop}

theorem ok_of_map {f : α → β} {x : Reading α} {b : β} (h : x.map f = .ok b) :
    ∃ a, x = .ok a ∧ f a = b := by
  cases x with
  | error e => cases h
  | ok a => exact ⟨a, rfl, Except.ok.inj h⟩

/-! ## Single values -/

/-- A reader that gives only values with a property. -/
def Gives (read : Reader α) (P : α → Prop) : Prop := ∀ n a, read n = .ok a → P a

theorem Gives.mono {read : Reader α} {P' : α → Prop} (h : Gives read P) (hP : ∀ a, P a → P' a) :
    Gives read P' :=
  fun n a ha => hP a (h n a ha)

theorem Gives.option {read : Reader α} (h : Gives read P) :
    Gives (readOption read) fun o => ∀ a ∈ o, P a := by
  intro n o ho
  cases n with
  | null => cases ho; simp
  | _ =>
    obtain ⟨b, hb, rfl⟩ := ok_of_map ho
    rintro a ⟨⟩
    exact h _ _ hb

theorem Gives.each {read : Reader α} (h : Gives read P) {ns : List Node} {as : List α}
    (has : readEach read ns = .ok as) : ∀ a ∈ as, P a := by
  induction ns generalizing as with
  | nil => cases has; simp
  | cons n ns ih =>
    simp only [readEach] at has
    split at has
    · cases has
    · rename_i b hb
      obtain ⟨bs, hbs, rfl⟩ := ok_of_map has
      exact List.forall_mem_cons.mpr ⟨h _ _ hb, ih hbs⟩

theorem Gives.list {read : Reader α} (h : Gives read P) :
    Gives (readList read) fun as => ∀ a ∈ as, P a := by
  intro n as has
  cases n with
  | list elements last =>
    simp only [readList] at has
    split at has
    · cases has
    · cases has
    · rename_i hbs _; cases has; exact h.each hbs
  | _ => simp only [readList, mismatch] at has; split at has <;> cases has

/-- Readers that build a value out of what another reader gives. -/
theorem Gives.map {read : Reader α} {f : α → β} {P : β → Prop} (h : ∀ a, P (f a)) :
    Gives (fun n => (read n).map f) P := by
  intro n b hb
  obtain ⟨a, _, rfl⟩ := ok_of_map hb
  exact h a

/-! ## Records -/

/-- A field that keeps a property of the record when it sets its part. -/
def Field.Keeps (f : Field ρ) (Q : ρ → Prop) : Prop :=
  ∀ n r r', Q r → f.read n r = .ok r' → Q r'

theorem Field.keeps_default {name : String} {read : Reader α} {set : α → ρ → ρ}
    (h : Gives read fun a => ∀ r, Q r → Q (set a r)) : (Field.default name read set).Keeps Q := by
  intro n r r' hr h'
  obtain ⟨a, ha, rfl⟩ := ok_of_map h'
  exact h n a ha r hr

theorem Field.keeps_needs {name : String} {read : Reader α} {set : α → ρ → ρ}
    (h : Gives read fun a => ∀ r, Q r → Q (set a r)) : (Field.needs name read set).Keeps Q := by
  change (Field.default name read set).Keeps Q
  exact Field.keeps_default h

theorem Field.frame_default {name : String} {read : Reader α} {set : α → ρ → ρ}
    (h : ∀ a r, Q r → Q (set a r)) : (Field.default name read set).Keeps Q :=
  Field.keeps_default fun _ a _ => h a

theorem Field.frame_needs {name : String} {read : Reader α} {set : α → ρ → ρ}
    (h : ∀ a r, Q r → Q (set a r)) : (Field.needs name read set).Keeps Q :=
  Field.keeps_needs fun _ a _ => h a

/-- A member is skipped when no field has its name, and otherwise read by a field that was not seen
before. -/
theorem readMembers_cons {fields : List (Field ρ)} {key : Json.Content} {value : Node}
    {members : List (Json.Content × Node)} {seen seen' : List String} {r r' : ρ}
    (h : readMembers fields ((key, value) :: members) seen r = .ok (seen', r')) :
    ∃ cs, key = .ok cs ∧
      (((∀ f ∈ fields, f.name ≠ String.ofList cs) ∧
          readMembers fields members seen r = .ok (seen', r')) ∨
        ∃ f ∈ fields, f.name = String.ofList cs ∧ f.name ∉ seen ∧
          ∃ r₁, f.read value r = .ok r₁ ∧
            readMembers fields members (f.name :: seen) r₁ = .ok (seen', r')) := by
  cases key with
  | error f => cases h
  | ok cs =>
    refine ⟨cs, rfl, ?_⟩
    simp only [readMembers] at h
    split at h
    · rename_i unknown
      split at h
      · cases h
      · exact .inl ⟨by simpa using unknown, h⟩
    · rename_i f found
      have name : f.name = String.ofList cs := by simpa using List.find?_some found
      split at h
      · cases h
      · rename_i fresh
        split at h
        · cases h
        · rename_i r₁ read
          rw [← name] at fresh h
          exact .inr ⟨f, List.mem_of_find?_eq_some found, name, by simpa using fresh, r₁, read, h⟩

theorem readPlaces_cons {title : String} {place length : Nat} {last : ListEnd} {f : Field ρ}
    {fields : List (Field ρ)} {n : Node} {ns : List Node} {r r' : ρ}
    (h : readPlaces title place length last (f :: fields) (n :: ns) r = .ok r') :
    ∃ r₁, f.read n r = .ok r₁ ∧
      readPlaces title (place + 1) length last fields ns r₁ = .ok r' := by
  simp only [readPlaces] at h
  split at h
  · cases h
  · rename_i r₁ read
    exact ⟨r₁, read, h⟩

theorem readMembers_keeps {fields : List (Field ρ)} (hf : ∀ f ∈ fields, f.Keeps Q)
    {members : List (Json.Content × Node)} {seen seen' : List String} {r r' : ρ} (hr : Q r)
    (h : readMembers fields members seen r = .ok (seen', r')) : Q r' := by
  induction members generalizing seen r with
  | nil => cases h; exact hr
  | cons m members ih =>
    obtain ⟨cs, -, ⟨-, rest⟩ | ⟨f, mem, -, -, r₁, read, rest⟩⟩ := readMembers_cons h
    · exact ih hr rest
    · exact ih (hf f mem _ _ _ hr read) rest

theorem readPlaces_keeps {title : String} {place length : Nat} {last : ListEnd}
    {fields : List (Field ρ)} (hf : ∀ f ∈ fields, f.Keeps Q) {ns : List Node} {r r' : ρ}
    (hr : Q r) (h : readPlaces title place length last fields ns r = .ok r') : Q r' := by
  induction fields generalizing place ns r with
  | nil =>
    simp only [readPlaces] at h
    obtain ⟨_, _, rfl⟩ := ok_of_map h
    exact hr
  | cons field fields ih =>
    have hfields : ∀ f ∈ fields, f.Keeps Q := fun f hm => hf f (List.mem_cons_of_mem _ hm)
    cases ns with
    | nil =>
      simp only [readPlaces] at h
      split at h
      · cases h
      · split at h
        · cases h
        · exact ih hfields hr h
    | cons n ns =>
      obtain ⟨r₁, read, rest⟩ := readPlaces_cons h
      exact ih hfields (hf _ List.mem_cons_self _ _ _ hr read) rest

theorem readMembers_of_read {l : Layout ρ} {members : List (Json.Content × Node)}
    {last : Json.ObjectEnd} {r : ρ} (h : l.read (.object members last) = .ok r) :
    ∃ seen, readMembers l.fields members [] l.blank = .ok (seen, r) := by
  simp only [Layout.read] at h
  split at h
  · cases h
  · rename_i seen r' read
    split at h
    · cases h
    · split at h
      · cases h
      · cases h
        exact ⟨seen, read⟩

theorem Layout.gives {l : Layout ρ} (blank : Q l.blank) (hf : ∀ f ∈ l.fields, f.Keeps Q) :
    Gives l.read Q := by
  intro n r h
  cases n with
  | object members last =>
    obtain ⟨seen, read⟩ := readMembers_of_read h
    exact readMembers_keeps hf blank read
  | list elements last => exact readPlaces_keeps hf blank h
  | _ => simp only [Layout.read, mismatch] at h; split at h <;> cases h

/-- What a text is read as is read from its tree. -/
theorem read_of_readText? {read : Reader α} {text : String} {a : α}
    (h : readText? read text = .ok a) : read (Json.Document.read text.toList).root = .ok a := by
  simp only [readText?] at h
  split at h
  · cases h
  · rename_i hb
    split at h
    · cases h
    · cases h; exact hb

/-- What a text is read as has the property that its reader gives. -/
theorem Gives.text {read : Reader α} (h : Gives read P) {text : String} {a : α}
    (ha : readText? read text = .ok a) : P a :=
  h _ _ (read_of_readText? ha)

end Flotilla.Record
