import Flotilla.Files

/-! # What is written is read back

A file that was written at a path is found on the same path: writing changes what
stands at one place only, and that place was no directory, so no walk led over it. -/
namespace Flotilla.Files

/-! ## Walks -/

theorem walk_cons {f : Files} {at_ last : Place} {name : String} {names : List String} :
    f.walk at_ (name :: names) = .ok last ↔
      f.standing? at_ = some .directory ∧ name.utf8ByteSize ≤ longestName ∧
        f.walk (stepTo at_ name) names = .ok last := by
  rw [walk]
  cases f.standing? at_ with
  | none => simp
  | some entry =>
    cases entry with
    | file content => simp
    | directory =>
      by_cases hname : longestName < name.utf8ByteSize
      · simp [hname, Nat.not_le.mpr hname]
      · simp [hname, Nat.le_of_not_lt hname]

theorem walk_append {f : Files} {at_ mid last : Place} {names rest : List String}
    (h : f.walk at_ names = .ok mid) (hrest : f.walk mid rest = .ok last) :
    f.walk at_ (names ++ rest) = .ok last := by
  induction names generalizing at_ with
  | nil => cases h; exact hrest
  | cons name names ih =>
    obtain ⟨hdir, hname, h⟩ := walk_cons.mp h
    exact walk_cons.mpr ⟨hdir, hname, ih h⟩

theorem standing?_put_of_directory {f : Files} {place at_ : Place} (hout : outside place = false)
    (hplace : f.standing? place ≠ some .directory) (content : Content)
    (h : f.standing? at_ = some .directory) :
    (f.put place (.file content)).standing? at_ = some .directory := by
  have elsewhere : at_ ≠ place := fun heq => hplace (heq ▸ h)
  simp [hout, elsewhere, h]

/-- A walk goes the same way when a file is put where no directory stands. -/
theorem walk_put {f : Files} {place : Place} (hout : outside place = false)
    (hplace : f.standing? place ≠ some .directory) (content : Content) {at_ last : Place}
    {names : List String} (h : f.walk at_ names = .ok last) :
    (f.put place (.file content)).walk at_ names = .ok last := by
  -- each place on the walk is a directory, so none of them is the place of the file
  induction names generalizing at_ with
  | nil => exact h
  | cons name names ih =>
    obtain ⟨hdir, hname, h⟩ := walk_cons.mp h
    exact walk_cons.mpr ⟨standing?_put_of_directory hout hplace content hdir, hname, ih h⟩

/-! ## Where a file is written -/

/-- A name under which a file can stand. -/
def FileName (name : String) : Prop := name ∉ ["", ".", "..", rootName]

theorem FileName.stepTo {name : String} (h : FileName name) (at_ : Place) :
    stepTo at_ name = at_ ++ [name] := by
  simp only [FileName, List.mem_cons, List.not_mem_nil, not_or, or_false] at h
  rw [Flotilla.stepTo, if_neg (by simp [h]), if_neg h.2.2.1]

theorem FileName.outside {name : String} (h : FileName name) (at_ : Place) :
    outside (at_ ++ [name]) = false := by
  simp only [FileName, List.mem_cons, List.not_mem_nil, not_or, or_false] at h
  simp [Flotilla.outside, h]

/-- What it says of a path and a place that a file can be written there. -/
structure Target (f : Files) (path : String) (place : Place) : Prop where
  permitted : permit path = .ok ()
  file : f.standing? place ≠ some .directory
  reached : ∃ parents parent name, namesOf path = parents ++ [name] ∧ place = parent ++ [name] ∧
    f.walk [] parents = .ok parent ∧ f.standing? parent = some .directory ∧
    FileName name ∧ name.utf8ByteSize ≤ longestName

theorem namesOf_of_splitLast {path : String} {parents : List String} {name : String}
    (h : splitLast path = (parents, name, false)) (hname : name ≠ "") :
    namesOf path = parents ++ [name] := by
  unfold splitLast at h
  simp only [Prod.mk.injEq, decide_eq_false_iff_not] at h
  obtain ⟨rfl, rfl, hlen⟩ := h
  have bare : ((namesOf path).reverse.dropWhile (· == "")).reverse = namesOf path := by
    have suffix_ := List.dropWhile_suffix (l := (namesOf path).reverse) (· == "")
    have same := suffix_.eq_of_length_le (by simp only [List.length_reverse] at hlen ⊢; omega)
    rw [same, List.reverse_reverse]
  rw [bare] at hname ⊢
  cases hlast : (namesOf path).getLast? with
  | none => rw [hlast] at hname; exact absurd rfl hname
  | some name =>
    obtain ⟨front, hfront⟩ := List.getLast?_eq_some_iff.mp hlast
    rw [hfront, List.dropLast_concat]
    rfl

theorem target_spec {f : Files} {path : String} {place : Place} (h : f.target path = .ok place) :
    Target f path place := by
  unfold target at h
  cases hpermit : permit path with
  | error e => rw [hpermit] at h; cases h
  | ok u =>
    rw [hpermit] at h
    rcases hsplit : splitLast path with ⟨parents, name, slash⟩
    simp only [hsplit] at h
    cases hwalk : f.walk [] parents with
    | error e => rw [hwalk] at h; cases h
    | ok parent =>
      simp only [hwalk] at h
      split at h
      · cases h
      · cases h
      · rename_i hdir
        split at h
        · cases h
        · rename_i hname
          split at h
          · cases h
          · rename_i hlong
            split at h
            · cases h
            · rename_i hfile
              cases h
              simp only [Bool.or_eq_true, not_or, List.contains_iff_mem, Bool.not_eq_true] at hname
              obtain ⟨rfl, hname⟩ := hname
              have nonempty : name ≠ "" := fun h => hname (by simp [h])
              exact ⟨hpermit, hfile, parents, parent, name, namesOf_of_splitLast hsplit nonempty,
                rfl, hwalk, hdir, hname, Nat.le_of_not_lt hlong⟩

/-! ## Reading what was written -/

/-- A file that was written stands at the end of its path, and all else as it stood before. -/
theorem find_write {f f' : Files} {path : String} {content : Content}
    (h : f.write path content = .ok f') :
    ∃ place, outside place = false ∧ f' = f.put place (.file content) ∧
      f'.find path = .ok (place, .file content) := by
  unfold write at h
  cases htarget : f.target path with
  | error e => rw [htarget] at h; cases h
  | ok place =>
    rw [htarget] at h
    cases h
    obtain ⟨permitted, file, parents, parent, name, hnames, rfl, hwalk, hdir, hname, hlong⟩ :=
      target_spec htarget
    have hout := hname.outside parent
    refine ⟨parent ++ [name], hout, rfl, ?_⟩
    have last : (f.put (parent ++ [name]) (.file content)).walk parent [name]
        = .ok (parent ++ [name]) := by
      refine walk_cons.mpr ⟨standing?_put_of_directory hout file content hdir, hlong, ?_⟩
      rw [hname.stepTo]
      rfl
    have walk_ := walk_append (walk_put hout file content hwalk) last
    rw [← hnames] at walk_
    have standing_ : (f.put (parent ++ [name]) (.file content)).standing? (parent ++ [name])
        = some (.file content) := by
      simp [hout]
    simp only [find, locate, permitted, walk_, standing_]

theorem read_write {f f' : Files} {path : String} {content : Content}
    (h : f.write path content = .ok f') : f'.read path = textOf (.file content) := by
  obtain ⟨place, _, _, found⟩ := find_write h
  rw [read, found]

/-- A text that was saved at a path is read there. -/
theorem read_save {f f' : Files} {path s : String} (h : f.save path (.text s) = (f', .ok ())) :
    f'.read path = .ok s := by
  unfold save at h
  split at h
  · cases h
  · split at h
    · cases h
    · rename_i written
      cases h
      exact read_write written

/-! ## What saving leaves alone -/

/-- Making directories adds directories where nothing stood, whether or not it succeeds. -/
theorem standing?_makeAll (f : Files) (at_ : Place) (names : List String) (place : Place) :
    let made := (f.makeAll at_ names).1
    made.standing? place = f.standing? place ∨
      f.standing? place = none ∧ made.standing? place = some .directory := by
  induction names generalizing f at_ with
  | nil => exact .inl rfl
  | cons name names ih =>
    unfold makeAll
    split
    · exact .inl rfl
    · dsimp only
      split
      · exact ih f _
      · exact .inl rfl
      · rename_i absent
        -- nothing is absent outside of the tree
        have hout : outside (stepTo at_ name) = false := by
          cases hout : outside (stepTo at_ name) with
          | false => rfl
          | true =>
            rw [standing?, if_pos hout] at absent
            cases absent
        have rest := ih (f.put (stepTo at_ name) .directory) (stepTo at_ name)
        by_cases same : place = stepTo at_ name
        · refine .inr ⟨same ▸ absent, ?_⟩
          simpa [hout, same] using rest
        · simpa [hout, same] using rest

theorem standing?_makeDirectories (f : Files) (path : String) (place : Place) :
    let made := (f.makeDirectories path).1
    made.standing? place = f.standing? place ∨
      f.standing? place = none ∧ made.standing? place = some .directory := by
  unfold makeDirectories
  split
  · exact .inl rfl
  · exact standing?_makeAll f [] (namesOf path) place

/-- Saving a file changes at most what stands at the end of its path, and adds directories where
nothing stood, whether or not it succeeds. -/
theorem standing?_save (f : Files) (path : String) (content : Content) (place : Place) :
    let saved := (f.save path content).1
    saved.standing? place = f.standing? place ∨
      f.standing? place = none ∧ saved.standing? place = some .directory ∨
      saved.find path = .ok (place, .file content) := by
  have made := standing?_makeDirectories f (parentOf path) place
  unfold save
  split
  · rename_i attempt
    rw [attempt] at made
    exact made.imp id .inl
  · rename_i attempt
    rw [attempt] at made
    split
    · exact made.imp id .inl
    · rename_i written
      obtain ⟨target, hout, rfl, found⟩ := find_write written
      by_cases same : place = target
      · exact .inr (.inr (same ▸ found))
      · simpa [hout, same] using made.imp id .inl

end Flotilla.Files
