import Flotilla.Yaml.Token

/-! # Events of a YAML document

A document as the series of its scalars and of the starts and ends of its lists and
maps, up to its first fault. A reader of the events so meets whatever comes first in
the text. An alias gives the event that the node it stands for starts with.

An anchor is known by a number, the count of the names known before it, and an alias
stands for the last node with the number of its name. -/
namespace Flotilla.Yaml

inductive Event where
  | scalar (text : List Char) (style : Style) (tag : Option (List UInt8))
  | listStart
  | listEnd
  | mapStart
  | mapEnd
  /-- An alias of the node that starts with an event. -/
  | again (start : Event)
deriving DecidableEq

def Event.blank : Event := .scalar [] .plain none

/-- A part of a document while it is read. -/
inductive Item where
  | event (e : Event)
  | alias (number : Nat)

/-- What is still to be read. -/
inductive Task where
  | node (block indentless : Bool)
  | blockElement
  | indentlessElement
  | blockKey
  | blockValue
  | flowElement (first : Bool)
  | pairKey
  | pairValue
  | pairEnd
  | flowKey (first : Bool)
  | flowValue (bare : Bool)

/-- The meanings of tag handles. -/
abbrev Meanings := List (List Char × List UInt8)

/-- The handles that always have a meaning. -/
def standardMeanings : Meanings :=
  [(['!'], Progress.bareTag), (['!', '!'], "tag:yaml.org,2002:".toUTF8.data.toList)]

/-- How far a document has been read. -/
structure Reader where
  tokens : List Token
  /-- The fault that is met where the tokens run out. -/
  cut : Fault
  /-- The parts so far, the last one first. -/
  items : List Item := []
  tasks : List Task := []
  /-- The numbers of anchors by name. -/
  anchors : List (List Char × Nat) := []
  /-- The first events of the nodes with an anchor, by number, the last one first. -/
  anchored : List (Nat × Event) := []
  meanings : Meanings := standardMeanings

namespace Reader

def next? (r : Reader) : Option Token := r.tokens.head?

def pass (r : Reader) : Reader := { r with tokens := r.tokens.tail }

def emit (r : Reader) (e : Event) : Reader := { r with items := .event e :: r.items }

def push (r : Reader) (t : Task) : Reader := { r with tasks := t :: r.tasks }

def events (r : Reader) : List Event :=
  r.items.reverse.filterMap fun
    | .event e => some e
    | .alias number => (r.anchored.lookup number).map .again

/-- A step of reading: further, or at a fault. -/
abbrev Step := Except Fault Reader

/-- Reads a node, then goes on with a task. -/
def nodeThen (r : Reader) (block indentless : Bool) (t : Task) : Step :=
  .ok ((r.push t).push (.node block indentless))

/-- Takes a node without text, then goes on with a task. -/
def blankThen (r : Reader) (t : Task) : Step := .ok ((r.emit .blank).push t)

/-! ## Nodes -/

structure Properties where
  anchor : Option (List Char) := none
  tag : Option (List Char × List UInt8) := none

/-- Takes the properties of a node: an anchor and a tag, in either order, each at most
once. -/
def takeProperties : Nat → Reader → Properties → Reader × Properties
  | 0, r, ps => (r, ps)
  | fuel + 1, r, ps =>
    match r.next?, ps.anchor, ps.tag with
    | some (.anchor name), none, _ => takeProperties fuel r.pass { ps with anchor := some name }
    | some (.tag handle rest), _, none =>
      takeProperties fuel r.pass { ps with tag := some (handle, rest) }
    | _, _, _ => (r, ps)

/-- The tag of a node by the meaning of its handle. -/
def resolveTag (r : Reader) (ps : Properties) : Except Fault (Option (List UInt8)) :=
  match ps.tag with
  | none => .ok none
  | some ([], rest) => .ok (some rest)
  | some (handle, rest) =>
    match r.meanings.lookup handle with
    | some meaning => .ok (some (meaning ++ rest))
    | none => .error (.met .undefinedTag .node)

/-- Adds the first event of a node and makes it known under the anchor of the node. -/
def begin (r : Reader) (ps : Properties) (e : Event) : Reader :=
  match ps.anchor with
  | none => r.emit e
  | some name =>
    let number := r.anchors.length
    { r with
      anchors := (name, number) :: r.anchors.filter fun a => a.1 != name
      anchored := (number, e) :: r.anchored }.emit e

def content (r : Reader) (block indentless : Bool) (ps : Properties)
    (tag : Option (List UInt8)) : Step :=
  match r.next? with
  | some (.scalar text style) => .ok (r.pass.begin ps (.scalar text style tag))
  | some .openList => .ok ((r.pass.begin ps .listStart).push (.flowElement true))
  | some .openMap => .ok ((r.pass.begin ps .mapStart).push (.flowKey true))
  | next =>
    if indentless && next = some .element then
      .ok ((r.begin ps .listStart).push .indentlessElement)
    else if block && next = some .blockList then
      .ok ((r.pass.begin ps .listStart).push .blockElement)
    else if block && next = some .blockMap then
      .ok ((r.pass.begin ps .mapStart).push .blockKey)
    else if ps.anchor.isSome || ps.tag.isSome then .ok (r.begin ps (.scalar [] .plain tag))
    else .error (.met .noContent (if block then .blockNode else .flowNode))

def node (r : Reader) (block indentless : Bool) : Step :=
  match r.next? with
  | some (.alias name) =>
    match r.anchors.lookup name with
    | some number => .ok { r.pass with items := .alias number :: r.items }
    | none => .error .unknownAnchor
  | _ =>
    let (r, ps) := takeProperties 3 r {}
    if r.tokens.isEmpty then .error r.cut
    else
      match r.resolveTag ps with
      | .error f => .error f
      | .ok tag => r.content block indentless ps tag

/-! ## Lists and maps -/

/-- Reads an element of a block list, or its end. -/
def blockElement (r : Reader) : Step :=
  match r.next? with
  | some .element =>
    let r := r.pass
    match r.next? with
    | some .element | some .blockEnd => r.blankThen .blockElement
    | _ => r.nodeThen true false .blockElement
  | some .blockEnd => .ok (r.pass.emit .listEnd)
  | _ => .error (.met .noElement .blockList)

/-- Reads an element of a list that stands as deep as the map around it, or its end. -/
def indentlessElement (r : Reader) : Step :=
  match r.next? with
  | some .element =>
    let r := r.pass
    match r.next? with
    | some .element | some .key | some .value | some .blockEnd => r.blankThen .indentlessElement
    | _ => r.nodeThen true false .indentlessElement
  | _ => .ok (r.emit .listEnd)

/-- Reads a key of a block map, or its end. -/
def blockKey (r : Reader) : Step :=
  match r.next? with
  | some .key =>
    let r := r.pass.push .blockKey
    match r.next? with
    | some .key | some .value | some .blockEnd => r.blankThen .blockValue
    | _ => r.nodeThen true true .blockValue
  | some .blockEnd => .ok (r.pass.emit .mapEnd)
  | _ => .error (.met .noKey .blockMap)

def blockValue (r : Reader) : Step :=
  match r.next? with
  | some .value =>
    let r := r.pass
    match r.next? with
    | some .key | some .value | some .blockEnd => .ok (r.emit .blank)
    | _ => .ok (r.push (.node true true))
  | _ => .ok (r.emit .blank)

/-- Passes the separator that stands before all elements but the first one. -/
def separated (r : Reader) (first : Bool) (p : Problem) (activity : Activity) : Step :=
  if first then .ok r
  else if r.next? = some .separator then .ok r.pass
  else .error (.met p activity)

/-- Reads an element of a list in brackets, or its end. A pair in it is a map of its own. -/
def flowElement (r : Reader) (first : Bool) : Step :=
  if r.next? = some .closeList then .ok (r.pass.emit .listEnd)
  else
    match r.separated first .noListSeparator .flowList with
    | .error f => .error f
    | .ok r =>
      match r.next? with
      | some .key => .ok (((r.pass.emit .mapStart).push (.flowElement false)).push .pairKey)
      | some .closeList => .ok (r.pass.emit .listEnd)
      | _ => r.nodeThen false false (.flowElement false)

/-- Reads the key of a pair in a list. -/
def pairKey (r : Reader) : Step :=
  match r.next? with
  | some .value | some .separator | some .closeList => r.pass.blankThen .pairValue
  | _ => r.nodeThen false false .pairValue

/-- Reads the value of a pair in a list. -/
def pairValue (r : Reader) : Step :=
  match r.next? with
  | some .value =>
    let r := r.pass
    match r.next? with
    | some .separator | some .closeList => r.blankThen .pairEnd
    | _ => r.nodeThen false false .pairEnd
  | _ => r.blankThen .pairEnd

/-- Reads a key of a map in brackets, or its end. -/
def flowKey (r : Reader) (first : Bool) : Step :=
  if r.next? = some .closeMap then .ok (r.pass.emit .mapEnd)
  else
    match r.separated first .noMapSeparator .flowMap with
    | .error f => .error f
    | .ok r =>
      match r.next? with
      | some .key =>
        let r := r.pass.push (.flowKey false)
        match r.next? with
        | some .value | some .separator | some .closeMap => r.blankThen (.flowValue false)
        | _ => r.nodeThen false false (.flowValue false)
      | some .closeMap => .ok (r.pass.emit .mapEnd)
      | _ => (r.push (.flowKey false)).nodeThen false false (.flowValue true)

def flowValue (r : Reader) (bare : Bool) : Step :=
  if bare || r.next? ≠ some .value then .ok (r.emit .blank)
  else
    let r := r.pass
    match r.next? with
    | some .separator | some .closeMap => .ok (r.emit .blank)
    | _ => .ok (r.push (.node false false))

def perform (r : Reader) : Task → Step
  | .node block indentless => r.node block indentless
  | .blockElement => r.blockElement
  | .indentlessElement => r.indentlessElement
  | .blockKey => r.blockKey
  | .blockValue => r.blockValue
  | .flowElement first => r.flowElement first
  | .pairKey => r.pairKey
  | .pairValue => r.pairValue
  | .pairEnd => .ok (r.emit .mapEnd)
  | .flowKey first => r.flowKey first
  | .flowValue bare => r.flowValue bare

/-- Does all tasks, as long as there are tokens; a document ends before a token that is not
a part of it. -/
def finish : Nat → Reader → Reader × Option Fault
  | 0, r => (r, none)
  | fuel + 1, r =>
    if r.tokens.isEmpty then (r, some r.cut)
    else
      match r.tasks with
      | [] => (r, none)
      | t :: tasks =>
        match { r with tasks }.perform t with
        | .error f => (r, some f)
        | .ok r => finish fuel r

def takeDirectives : Bool → List Token → Meanings → Except Fault (List Token × Meanings)
  | seen, .version major minor :: rest, meanings =>
    if seen then .error (.broken .repeatedVersion none)
    else if major ≠ 1 || minor ≠ 1 && minor ≠ 2 then .error (.broken .wrongVersion none)
    else takeDirectives true rest meanings
  | seen, .tagMeaning handle meaning :: rest, meanings =>
    if meanings.any fun m => m.1 == handle then .error (.broken .repeatedTag none)
    else takeDirectives seen rest (meanings ++ [(handle, meaning)])
  | _, tokens, meanings => .ok (tokens, meanings)

end Reader

/-- The first document of a text, up to the first fault, and whether more than it
follows. -/
structure Document where
  events : List Event
  fault : Option Fault
  more : Bool

namespace Document

/-- A document that ends at a fault before anything is read. -/
def broken (f : Fault) : Document := ⟨[], some f, false⟩

def bounds : Token → Bool
  | .version .. | .tagMeaning .. | .documentStart | .documentEnd | .textEnd => true
  | _ => false

def follows (tokens : List Token) : Bool :=
  (tokens.dropWhile (· == .documentEnd)).head? != some .textEnd

/-- The document that a reader reads with fuel for all of its tokens. -/
def ofReader (r : Reader) : Document :=
  let (done, fault) := r.finish (8 * r.tokens.length + 8)
  ⟨done.events, fault, follows done.tokens⟩

def ofContent (cut : Fault) (tokens : List Token) (meanings : Meanings) : Document :=
  match tokens with
  | [] => broken cut
  | t :: _ =>
    if bounds t then ⟨[.blank], none, follows tokens⟩
    else ofReader { tokens, cut, meanings, tasks := [.node true false] }

/-- The first document of tokens; none when the text ends at once. -/
def ofTokens (t : Tokens) : Option Document :=
  let cut := t.fault.getD .noDocument
  match t.list with
  | [] => some (broken cut)
  | .textEnd :: _ => none
  | first :: rest =>
    if !bounds first || first = .documentEnd then
      some (ofReader { tokens := first :: rest, cut, tasks := [.node true false] })
    else
      match Reader.takeDirectives false (first :: rest) [] with
      | .error f => some (broken f)
      | .ok ([], _) => some (broken cut)
      | .ok (start :: rest, meanings) =>
        if start = .documentStart then
          let missing := standardMeanings.filter fun m => !meanings.any fun g => g.1 == m.1
          some (ofContent cut rest (meanings ++ missing))
        else some (broken (.broken .noDocumentStart none))

def ofText (text : List Char) : Option Document := ofTokens (.ofText text)

end Document

end Flotilla.Yaml
