import Flotilla.Decimal.Shortest
import Flotilla.Files
import Flotilla.Settings.Basic
import Flotilla.Text.Quoted
import Flotilla.Yaml.Event

/-! # Settings files

The settings in a YAML text: a map from the names of settings. What is left out keeps
its default, and names of no setting are passed over.
A text setting takes any scalar as it is written, also one that looks like a number
or like nothing; an optional setting takes nothing as not given. -/
namespace Flotilla.Settings

open Flotilla.Yaml (Event Style)

/-! ## What scalars mean -/

/-- What stands in a place of a settings file. -/
inductive Found where
  | nothing
  | bool (b : Bool)
  | integer (z : Int)
  | wide (z : Int)
  | real (x : Float)
  | text (s : List Char)
  | list
  | map

/-- How a real number is shown: without a power of ten. -/
def realStyle : Decimal.Style := ⟨-400, 400⟩

def realText (x : Float) : String :=
  if x.isNaN then "NaN"
  else if x.isInf then (if x < 0.0 then "-inf" else "inf")
  else realStyle.float x

def Found.message : Found → String
  | .nothing => "unit value"
  | .bool true => "boolean `true`"
  | .bool false => "boolean `false`"
  | .integer z => "integer `" ++ Text.ofInt z ++ "`"
  | .wide z => "integer `" ++ Text.ofInt z ++ "` as " ++ (if z < 0 then "i128" else "u128")
  | .real x => "floating point `" ++ realText x ++ "`"
  | .text s => "string " ++ Text.quoted (String.ofList s)
  | .list => "sequence"
  | .map => "map"

def isNothing (s : List Char) : Bool :=
  ["null", "Null", "NULL", "~"].contains (String.ofList s)

def bool? (s : List Char) : Option Bool :=
  if ["true", "True", "TRUE"].contains (String.ofList s) then some true
  else if ["false", "False", "FALSE"].contains (String.ofList s) then some false
  else none

/-- The digits of a number in a base up to sixteen. -/
def digitsIn? (base : Nat) (s : List Char) : Option Nat :=
  if s.isEmpty then none
  else s.foldlM (fun n c => ((Text.hexDigit? c).filter (· < base)).map fun d => n * base + d) 0

/-- The base that the start of a number names, and its digits. -/
def based? : List Char → Option (Nat × List Char)
  | '0' :: 'x' :: s => some (16, s)
  | '0' :: 'o' :: s => some (8, s)
  | '0' :: 'b' :: s => some (2, s)
  | _ => none

/-- A decimal number; with more than one digit it does not start with a zero. -/
def decimal? (s : List Char) : Option Nat :=
  if 1 < s.length && s.head? = some '0' then none else Text.digits? s

/-- The number that a scalar without a sign stands for. -/
def magnitude? (s : List Char) : Option Nat :=
  (((based? s).bind fun (base, digits) => digitsIn? base digits)).or (decimal? s)

def integer? : List Char → Option Int
  | '+' :: s => (magnitude? s).map fun n => (n : Int)
  | '-' :: s => (magnitude? s).map fun n => -(n : Int)
  | s => (magnitude? s).map fun n => (n : Int)

def wideLeast : Int := -170141183460469231731687303715884105728

def wideGreatest : Int := 340282366920938463463374607431768211455

/-- What an integer is called: plain in 64 bits, wide in 128 bits. -/
def Found.ofInteger? (z : Int) : Option Found :=
  if Int64.minValue.toInt ≤ z ∧ z < UInt64.size then some (.integer z)
  else if wideLeast ≤ z ∧ z ≤ wideGreatest then some (.wide z)
  else none

def exponent? : List Char → Option Int
  | [] => some 0
  | c :: s => if c = 'e' || c = 'E' then Text.int? s else none

/-- The parts of a real number: its digits as a whole number, and a power of ten. -/
def realParts? (s : List Char) : Option (Nat × Int) :=
  let whole := s.takeWhile Char.isDigit
  let (fraction, rest) := match s.dropWhile Char.isDigit with
    | '.' :: rest => (rest.takeWhile Char.isDigit, rest.dropWhile Char.isDigit)
    | rest => ([], rest)
  if whole.isEmpty && fraction.isEmpty then none
  else (exponent? rest).map fun e =>
    (Nat.ofDigitChars 10 (whole ++ fraction) 0, e - (fraction.length : Int))

/-- The greatest power of ten that is computed; beyond it a number is infinite or zero. -/
def greatestPower : Nat := 100000

/-- The double nearest to a number of digits with a power of ten. -/
def nearest (digits : Nat) (e : Int) : Float :=
  let e := max (min e greatestPower) (-(greatestPower : Int))
  Float.ofScientific digits (e < 0) e.natAbs

def real? (s : List Char) : Option Float :=
  let (negative, digits) := match s with
    | '+' :: rest => (false, rest)
    | '-' :: rest => (true, rest)
    | rest => (false, rest)
  if ["inf", "Inf", "INF"].any fun n => digits = '.' :: n.toList then
    some (if negative then -1.0 / 0.0 else 1.0 / 0.0)
  else if [".nan", ".NaN", ".NAN"].contains (String.ofList s) then some (0.0 / 0.0)
  else
    match realParts? digits with
    | none => none
    | some (n, e) =>
      let x := nearest n e
      if x.isFinite then some (if negative then -x else x) else none

/-- Whether a scalar is digits with a zero in front. -/
def zeroPadded (s : List Char) : Bool :=
  let digits := match s with
    | '+' :: rest | '-' :: rest => rest
    | rest => rest
  1 < digits.length && digits.head? = some '0' && digits.all Char.isDigit

def Found.ofPlain (s : List Char) : Found :=
  if s.isEmpty || isNothing s then .nothing
  else
    match bool? s, (integer? s).bind Found.ofInteger?, real? s with
    | some b, _, _ => .bool b
    | none, some z, _ => z
    | none, none, some x => if zeroPadded s then .text s else .real x
    | none, none, none => .text s

def standardTag (name : String) : List UInt8 :=
  ("tag:yaml.org,2002:" ++ name).toUTF8.data.toList

inductive Problem where
  | malformed (f : Yaml.Fault)
  | wrongType (found : Found) (expected : String)
  | wrongValue (text : List Char) (expected : String)
  /-- A text with the tag of nothing, where a text or nothing may stand. -/
  | notNothing (text : List Char)
  | repeated (name : String)

def nothingForm : String := "null"

/-- The wording of a text that is not what its tag says. -/
def wrongValueText (text : List Char) (expected : String) : String :=
  "invalid value: string " ++ Text.quoted (String.ofList text) ++ ", expected " ++ expected

def Problem.message : Problem → String
  | .malformed f => f.message
  | .wrongType found expected => "invalid type: " ++ found.message ++ ", expected " ++ expected
  | .wrongValue text expected => wrongValueText text expected
  | .notNothing text => wrongValueText text nothingForm
  | .repeated name => "duplicate field `" ++ name ++ "`"

/-- The refusal of a scalar where something else is wanted. A tag of a kind of scalar asks
for a scalar of that kind. -/
def refuseScalar (text : List Char) (style : Style) (tag : Option (List UInt8))
    (expected : String) : Problem :=
  match tag with
  | none => .wrongType (if style = .plain then .ofPlain text else .text text) expected
  | some tag =>
    if tag = standardTag "bool" then
      match bool? text with
      | some b => .wrongType (.bool b) expected
      | none => .wrongValue text "a boolean"
    else if tag = standardTag "int" then
      match (integer? text).bind Found.ofInteger? with
      | some z => .wrongType z expected
      | none => .wrongValue text "an integer"
    else if tag = standardTag "float" then
      match real? text with
      | some x => .wrongType (.real x) expected
      | none => .wrongValue text "a float"
    else if tag = standardTag "null" then
      if isNothing text then .wrongType .nothing expected else .wrongValue text nothingForm
    else if tag.head? = some '!'.toUInt8 && style = .plain then .wrongType (.ofPlain text) expected
    else .wrongType (.text text) expected

/-! ## Reading events -/

/-- The rest of a document: its events, and the fault behind them. -/
structure Source where
  events : List Event
  fault : Option Yaml.Fault

/-- What stops a reading where the events run out. -/
def Source.stop (s : Source) : Problem :=
  .malformed (s.fault.getD .noDocument)

/-- A value read from the front of a source, with the rest of it. -/
abbrev Reading (α : Type) := Except Problem (α × Source)

/-- Passes one node, given how many lists and maps of it are open. -/
def skipEvents (fault : Option Yaml.Fault) : Nat → List Event → Except Problem Source
  | _, [] => .error (Source.stop ⟨[], fault⟩)
  | depth, e :: rest =>
    let depth := match e with
      | .listStart | .mapStart => depth + 1
      | .listEnd | .mapEnd => depth - 1
      | _ => depth
    if depth = 0 then .ok ⟨rest, fault⟩ else skipEvents fault depth rest

def Source.skip (s : Source) : Except Problem Source := skipEvents s.fault 0 s.events

def refuse (e : Event) (expected : String) : Problem :=
  match e with
  | .scalar text style tag => refuseScalar text style tag expected
  | .listStart | .listEnd => .wrongType .list expected
  | .mapStart | .mapEnd => .wrongType .map expected
  | .again e => refuse e expected

/-- The event at the front and the rest behind it; an alias counts as what it stands for. -/
def Source.next? (s : Source) : Option (Event × Source) :=
  match s.events with
  | [] => none
  | .again e :: rest => some (e, { s with events := rest })
  | e :: rest => some (e, { s with events := rest })

/-- Reads a text, as it is written. -/
def readText (expected : String) (s : Source) : Reading String :=
  match s.next? with
  | none => .error s.stop
  | some (.scalar text _ _, rest) => .ok (String.ofList text, rest)
  | some (e, _) => .error (refuse e expected)

def count? (text : List Char) : Option Nat :=
  if text.head? = some '-' then none
  else ((integer? text).map Int.toNat).filter (· < UInt64.size)

def countForm : String := "usize"

/-- Whether a scalar may be a count: a plain one, or a literal one with the tag of integers. -/
def mayCount (style : Style) (tag : Option (List UInt8)) : Bool :=
  style = .plain || style = .literal && tag = some (standardTag "int")

def readCount (s : Source) : Reading Nat :=
  match s.next? with
  | none => .error s.stop
  | some (.scalar text style tag, rest) =>
    match count? text, mayCount style tag with
    | some n, true => .ok (n, rest)
    | _, _ => .error (refuseScalar text style tag countForm)
  | some (e, _) => .error (refuse e countForm)

def readOptional (expected : String) (s : Source) : Reading (Option String) :=
  let given := (readText expected s).map fun (t, s) => (some t, s)
  match s.next? with
  | some (.scalar text .plain tag, rest) =>
    match tag with
    | none => if text.isEmpty || isNothing text then .ok (none, rest) else given
    | some tag =>
      if tag = standardTag "null" then
        if isNothing text then .ok (none, rest) else .error (.notNothing text)
      else given
  | _ => given

/-! ## Settings -/

/-- A setting: its name and how it is read. -/
structure Setting where
  name : String
  read : Source → Settings → Reading Settings

/-- A setting out of the reader of its value. -/
def Setting.of (name : String) (read : Source → Reading α) (set : α → Settings → Settings) :
    Setting :=
  ⟨name, fun s settings => (read s).map fun (a, s) => (set a settings, s)⟩

def textForm : String := "a string"

def pathForm : String := "path string"

def known : List Setting :=
  [.of "bind_addr" (readText textForm) fun v s => { s with bindAddress := v },
   .of "snapshot_path" (readText pathForm) fun v s => { s with snapshotPath := v },
   .of "battle_dir" (readOptional pathForm) fun v s => { s with battleDirectory := v },
   .of "archive_capacity" readCount fun v s => { s with archiveCapacity := v },
   .of "log_filter" (readText textForm) fun v s => { s with logFilter := v },
   .of "static_dir" (readOptional pathForm) fun v s => { s with staticDirectory := v },
   .of "sync_token" (readOptional textForm) fun v s => { s with syncToken := v }]

/-- Why a settings file is refused: a problem, and the part of the file that it concerns. -/
structure Refusal where
  part : Option String
  problem : Problem

/-- Whether a problem is told without the part of the file that it concerns. -/
def Problem.isWhole : Problem → Bool
  | .malformed _ | .notNothing _ => true
  | _ => false

def Refusal.message (r : Refusal) : String :=
  match r.part with
  | none => r.problem.message
  | some part => (if r.problem.isWhole then "" else part ++ ": ") ++ r.problem.message

/-- How a refusal names the part of a key that is an alias. -/
def aliasPart : String := "?"

/-- The part of a file whose key comes next in a source. -/
def Source.part (s : Source) (name : String) : String :=
  match s.events with
  | .again _ :: _ => aliasPart
  | _ => name

def inPart (part : String) (r : Reading α) : Except Refusal (α × Source) :=
  r.mapError fun p => ⟨some part, p⟩

def whole (r : Except Problem α) : Except Refusal α :=
  r.mapError fun p => ⟨none, p⟩

/-- Reads the members of a map up to its end. -/
def readMembers : Nat → Source → List String → Settings → Except Refusal (Settings × Source)
  | 0, s, _, _ => .error ⟨none, s.stop⟩
  | fuel + 1, s, seen, settings =>
    match s.events with
    | .mapEnd :: rest => .ok (settings, { s with events := rest })
    | _ =>
      match whole (readText "field identifier" s) with
      | .error r => .error r
      | .ok (name, value) =>
        match known.find? fun k => k.name == name with
        | none =>
          match whole value.skip with
          | .error r => .error r
          | .ok s => readMembers fuel s seen settings
        | some setting =>
          if seen.contains name then .error ⟨none, .repeated name⟩
          else
            match inPart (s.part name) (setting.read value settings) with
            | .error r => .error r
            | .ok (settings, s) => readMembers fuel s (name :: seen) settings

/-- How a refusal names the settings as a whole. -/
def form : String := "struct AppConfig"

/-- Reads the settings at the front of a source. -/
def readAll (s : Source) : Except Refusal (Settings × Source) :=
  match s.events with
  | [] => .error ⟨none, s.stop⟩
  | .scalar [] .plain _ :: rest => .ok ({}, { s with events := rest })
  | .mapStart :: rest => readMembers (s.events.length + 1) { s with events := rest } [] {}
  | e :: _ => .error ⟨none, refuse e form⟩

/-- The settings in a text; a text without a document gives the defaults. -/
def ofText (text : String) : Except Refusal Settings :=
  if Text.blank text then .ok {}
  else
    match Yaml.Document.ofText text.toList with
    | none => .ok {}
    | some d =>
      match readAll ⟨d.events, d.fault⟩ with
      | .error r => .error r
      | .ok (settings, _) =>
        match d.fault with
        | some f => .error ⟨none, .malformed f⟩
        | none => if d.more then .error ⟨none, .malformed .manyDocuments⟩ else .ok settings

/-! ## The file of a run -/

def pathVariable : String := "FLEETVIEW_CONFIG"

def watchedVariables : List String := pathVariable :: overridingVariables

def defaultPath : String := "fleetview.yaml"

def pathIn (env : Environment) : String := (env.lookup pathVariable).getD defaultPath

/-- Why the settings of a run cannot be had. -/
inductive LoadError where
  | unreadable (path : String) (cause : FileError)
  | refused (path : String) (cause : Refusal)

def LoadError.message : LoadError → String
  | .unreadable path cause => "could not read config " ++ path ++ ": " ++ cause.message
  | .refused path cause => "invalid config " ++ path ++ ": " ++ cause.message

/-- The settings of a run: those of the settings file if there is one, with the variables
of the environment put in. -/
def load (files : Files) (env : Environment) : Except LoadError Settings :=
  let path := pathIn env
  if files.has path then
    match files.read path with
    | .error e => .error (.unreadable path e)
    | .ok text =>
      match ofText text with
      | .error r => .error (.refused path r)
      | .ok settings => .ok (settings.overridden env)
  else .ok (({} : Settings).overridden env)

end Flotilla.Settings
