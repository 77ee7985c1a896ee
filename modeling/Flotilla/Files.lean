import Flotilla.Text.Basic

/-! # Files

A tree of files as seen from a working directory. A path is walked name by name, and
every name but the last one must be a directory; so an operation fails for the first
name on its way that is absent or a file. -/
namespace Flotilla

/-- A place in the tree: the names on the way to it. The working directory is the empty
place, and a place behind a slash starts at the root. -/
abbrev Place := List String

/-- What a file holds: a text, or bytes that are not one. -/
inductive Content where
  | text (s : String)
  | binary (bytes : List UInt8)
deriving DecidableEq

/-- The content of a file with the given bytes. -/
def Content.ofBytes (bytes : ByteArray) : Content :=
  match String.fromUTF8? bytes with
  | some s => .text s
  | none => .binary bytes.data.toList

def Content.bytes : Content → List UInt8
  | .text s => s.toUTF8.data.toList
  | .binary bytes => bytes

inductive Entry where
  | file (content : Content)
  | directory
deriving DecidableEq

inductive FileError where
  | absent
  | notDirectory
  | isDirectory
  | nameTooLong
  | badName
  | notText
deriving DecidableEq, Repr

def FileError.message : FileError → String
  | .absent => "No such file or directory (os error 2)"
  | .notDirectory => "Not a directory (os error 20)"
  | .isDirectory => "Is a directory (os error 21)"
  | .nameTooLong => "File name too long (os error 36)"
  | .badName => "file name contained an unexpected NUL byte"
  | .notText => "stream did not contain valid UTF-8"

/-- A tree of files: the places below the working directory that hold something, each
once. -/
structure Files where
  entries : List (Place × Entry) := []

instance : Inhabited Files := ⟨{}⟩

/-! ## Paths -/

def longestName : Nat := 255

/-- The number of bytes that a path must stay below. -/
def longestPath : Nat := 4096

/-- The first name of a path that starts at the root. -/
def rootName : String := "/"

/-- The names of a path; an empty last name demands a directory. -/
def namesOf (path : String) : List String :=
  match (path.toList.splitOn '/').map String.ofList with
  | "" :: "" :: [] => [rootName]
  | "" :: names => rootName :: names
  | names => names

/-- The paths that lead up to a path, and the path itself. -/
def pathsUpTo (path : String) : List String :=
  let names := namesOf path
  (List.range names.length).map fun k => "/".intercalate (names.take (k + 1))

def pathOf : Place → String
  | [] => "."
  | name :: names => if name = rootName then rootName ++ "/".intercalate names
    else "/".intercalate (name :: names)

/-- Names without those at their end that lead nowhere. -/
def trimNames (names : List String) : List String :=
  (names.reverse.dropWhile fun n => n = "" || n = ".").reverse

/-- The path of the directory that a path names something in. -/
def parentOf (path : String) : String :=
  pathOf (trimNames (trimNames (namesOf path)).dropLast)

/-- The ending of a file name behind its last point. A point in front of a name starts no
ending. -/
def fileEnding? (name : String) : Option (List Char) :=
  match name.toList.reverse.span (· != '.') with
  | (_, []) | (_, [_]) => none
  | (ending, _ :: _ :: _) => some ending.reverse

/-- The place that a name leads to. -/
def stepTo (at_ : Place) (name : String) : Place :=
  if name = "" || name = "." then at_
  else if name = ".." then
    match at_.getLast? with
    | none | some ".." => at_ ++ [name]
    | some "/" => at_
    | some _ => at_.dropLast
  else at_ ++ [name]

/-- Whether a place is outside of the tree, where there are directories only. -/
def outside (at_ : Place) : Bool :=
  at_.all fun n => n = ".." || n = rootName

/-! ## Looking up -/

namespace Files

def standing? (f : Files) (at_ : Place) : Option Entry :=
  if outside at_ then some .directory else f.entries.lookup at_

def walk (f : Files) : Place → List String → Except FileError Place
  | at_, [] => .ok at_
  | at_, name :: rest =>
    match f.standing? at_ with
    | none => .error .absent
    | some (.file _) => .error .notDirectory
    | some .directory =>
      if longestName < name.utf8ByteSize then .error .nameTooLong
      else f.walk (stepTo at_ name) rest

/-- Refuses the paths that no tree has. -/
def permit (path : String) : Except FileError Unit :=
  if path.toList.contains '\x00' then .error .badName
  else if path.isEmpty then .error .absent
  else if longestPath ≤ path.utf8ByteSize then .error .nameTooLong
  else .ok ()

/-- The place of a path, whether or not something stands there. -/
def locate (f : Files) (path : String) : Except FileError Place :=
  match permit path with
  | .error e => .error e
  | .ok _ => f.walk [] (namesOf path)

def find (f : Files) (path : String) : Except FileError (Place × Entry) :=
  match f.locate path with
  | .error e => .error e
  | .ok at_ =>
    match f.standing? at_ with
    | none => .error .absent
    | some entry => .ok (at_, entry)

def has (f : Files) (path : String) : Bool :=
  match f.find path with
  | .ok _ => true
  | .error _ => false

/-- The text of an entry. -/
def textOf : Entry → Except FileError String
  | .directory => .error .isDirectory
  | .file (.binary _) => .error .notText
  | .file (.text s) => .ok s

def read (f : Files) (path : String) : Except FileError String :=
  match f.find path with
  | .error e => .error e
  | .ok (_, entry) => textOf entry

/-- The name of a place right below another one. -/
def nameIn (parent at_ : Place) : Option String :=
  match at_.getLast? with
  | none => none
  | some name => if at_.dropLast = parent then some name else none

/-- Puts an entry of a listing in order of name. -/
def insertNamed (entry : String × Entry) : List (String × Entry) → List (String × Entry)
  | [] => [entry]
  | e :: es => if entry.1 < e.1 then entry :: e :: es else e :: insertNamed entry es

/-- The entries of the directory at a path, in order of name. -/
def list (f : Files) (path : String) : Except FileError (List (String × Entry)) :=
  match f.find path with
  | .error e => .error e
  | .ok (_, .file _) => .error .notDirectory
  | .ok (parent, .directory) =>
    .ok ((f.entries.filterMap fun (at_, entry) => (nameIn parent at_).map fun n => (n, entry)).foldr
      insertNamed [])

/-! ## Writing -/

def put (f : Files) (at_ : Place) (entry : Entry) : Files :=
  ⟨(at_, entry) :: f.entries.filter fun e => e.1 != at_⟩

/-- The names of a path up to its last one, the last one, and whether a slash follows it. -/
def splitLast (path : String) : List String × String × Bool :=
  let names := namesOf path
  let bare := (names.reverse.dropWhile (· == "")).reverse
  (bare.dropLast, bare.getLast?.getD "", bare.length < names.length)

/-- The place at which a file can be created. -/
def target (f : Files) (path : String) : Except FileError Place :=
  match permit path with
  | .error e => .error e
  | .ok _ =>
    let (parents, name, slash) := splitLast path
    match f.walk [] parents with
    | .error e => .error e
    | .ok parent =>
      match f.standing? parent with
      | none => .error .absent
      | some (.file _) => .error .notDirectory
      | some .directory =>
        if slash || ["", ".", "..", rootName].contains name then .error .isDirectory
        else if longestName < name.utf8ByteSize then .error .nameTooLong
        else
          let at_ := parent ++ [name]
          match f.standing? at_ with
          | some .directory => .error .isDirectory
          | _ => .ok at_

/-- Writes a file, in place of one that stands at the path. -/
def write (f : Files) (path : String) (content : Content) : Except FileError Files :=
  (f.target path).map fun at_ => f.put at_ (.file content)

/-- Makes the directories on a walk that are absent. Those made before a step fails stay. -/
def makeAll (f : Files) : Place → List String → Files × Except FileError Unit
  | _, [] => (f, .ok ())
  | at_, name :: rest =>
    if longestName < name.utf8ByteSize then (f, .error .nameTooLong)
    else
      let next := stepTo at_ name
      match f.standing? next with
      | some .directory => f.makeAll next rest
      | some (.file _) => (f, .error .notDirectory)
      | none => (f.put next .directory).makeAll next rest

/-- Makes a directory and the directories on the way to it. -/
def makeDirectories (f : Files) (path : String) : Files × Except FileError Unit :=
  match permit path with
  | .error e => (f, .error e)
  | .ok _ => f.makeAll [] (namesOf path)

/-- Writes a file, making the directories on the way to it. They stay when it cannot be
written. -/
def save (f : Files) (path : String) (content : Content) : Files × Except FileError Unit :=
  match f.makeDirectories (parentOf path) with
  | (made, .error e) => (made, .error e)
  | (made, .ok _) =>
    match made.write path content with
    | .error e => (made, .error e)
    | .ok written => (written, .ok ())

/-- Sets what stands at a path, with directories on the way to it. Where it cannot stand,
all stays as it is. -/
def furnish (f : Files) (path : String) (entry : Entry) : Files :=
  let attempt :=
    match entry with
    | .directory => f.makeDirectories path
    | .file content => f.save path content
  match attempt with
  | (furnished, .ok _) => furnished
  | (_, .error _) => f

/-- The files that are new or have a new content, seen from an earlier time. -/
def changesSince (f earlier : Files) : List (Place × Content) :=
  f.entries.filterMap fun (at_, entry) =>
    match entry with
    | .directory => none
    | .file content => if earlier.standing? at_ = some entry then none else some (at_, content)

@[simp] theorem standing?_put (f : Files) (at_ other : Place) (entry : Entry)
    (h : outside at_ = false) :
    (f.put at_ entry).standing? other = if other = at_ then some entry else f.standing? other := by
  unfold standing? put
  by_cases ho : outside other = true
  · have : other ≠ at_ := fun e => by rw [e, h] at ho; cases ho
    simp [ho, this]
  · by_cases heq : other = at_
    · subst heq; simp [ho]
    · have : (other == at_) = false := by simpa using heq
      simp only [ho, List.lookup_cons, this, heq, Bool.false_eq_true, if_false]
      induction f.entries with
      | nil => rfl
      | cons e es ih =>
        obtain ⟨p, v⟩ := e
        by_cases he : p = at_
        · have hne : (other == p) = false := by simpa [he] using heq
          simpa [he, List.lookup_cons, this] using ih
        · have hk : (p != at_) = true := by simpa using he
          simp only [List.filter_cons, hk, if_true, List.lookup_cons, ih]

end Files

end Flotilla
