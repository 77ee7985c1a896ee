import Flotilla.Yaml.Scalar

/-! # Tokens of a YAML text

Structure comes from indentation: a token that stands deeper than the block around
it opens a new block, one that stands less deep closes blocks. A scalar, alias or
bracket turns out to be a key only when a colon follows it on the same line, so the
place of the last token that may be a key is kept for each level of brackets. -/
namespace Flotilla.Yaml

inductive Token where
  | textEnd
  | version (major minor : Nat)
  | tagMeaning (handle : List Char) (meaning : List UInt8)
  | documentStart
  | documentEnd
  | blockList
  | blockMap
  | blockEnd
  | openList
  | closeList
  | openMap
  | closeMap
  | element
  | separator
  | key
  | value
  | alias (name : List Char)
  | anchor (name : List Char)
  | tag (handle : List Char) (rest : List UInt8)
  | scalar (text : List Char) (style : Style)
deriving DecidableEq

/-- A token that may turn out to be a key. -/
structure Candidate where
  place : Nat
  /-- Nothing but a key can stand there. -/
  required : Bool
  mark : Mark

/-- How far a text has been cut into tokens. -/
structure Progress where
  cursor : Cursor
  /-- More than the number of characters of the text, so that it lasts for all loops. -/
  fuel : Nat
  /-- The tokens so far, the last one first. -/
  tokens : List Token := []
  /-- The number of tokens so far. -/
  count : Nat := 0
  /-- The column of the innermost block; below zero outside of all blocks. -/
  indent : Int := -1
  /-- The columns of the blocks around it. -/
  outer : List Int := []
  /-- The candidate of each level of brackets, the innermost first. -/
  candidates : List (Option Candidate) := [none]
  /-- Whether a key may start at the cursor. -/
  keyAllowed : Bool := true
  /-- The fault that is met where the text ends, when it is not read to its own end. -/
  cut : Option Fault := none

namespace Progress

def inFlow (p : Progress) : Bool := 1 < p.candidates.length

def mark (p : Progress) : Mark := p.cursor.mark

def add (p : Progress) (token : Token) : Progress :=
  { p with tokens := token :: p.tokens, count := p.count + 1 }

/-- Adds a token in front of a former one. -/
def addAt (p : Progress) (place : Nat) (token : Token) : Progress :=
  let behind := p.count - place
  { p with
    tokens := p.tokens.take behind ++ token :: p.tokens.drop behind
    count := p.count + 1 }

def moveTo (p : Progress) (c : Cursor) : Progress := { p with cursor := c }

/-- Asks for a number of characters at the cursor; a text that has been cut may lack them. -/
def reach (p : Progress) (n : Nat) : Except Fault Progress :=
  match p.cut with
  | some f => if (p.cursor.rest.drop (n - 1)).isEmpty then .error f else .ok p
  | none => .ok p

/-- Sets whether a key may start at the cursor. -/
def allowKey (p : Progress) (allowed : Bool) : Progress := { p with keyAllowed := allowed }

/-! ## Candidates -/

/-- The fault of a place that only a key can take. -/
def missingColon : Fault := .met .noColon .simpleKey

def longestKey : Nat := 1024

/-- Whether the cursor is too far from a candidate for a colon to make it a key. -/
def outdated (p : Progress) (c : Candidate) : Bool :=
  c.mark.line < p.mark.line || c.mark.index + longestKey < p.mark.index

/-- Drops the candidates that the cursor has left behind. -/
def dropOutdated (p : Progress) : Except Fault Progress :=
  if p.candidates.any fun c => c.any fun c => p.outdated c && c.required then .error missingColon
  else .ok { p with candidates := p.candidates.map fun c => c.filter fun c => !p.outdated c }

def dropCandidate (p : Progress) : Except Fault Progress :=
  match p.candidates with
  | some c :: rest =>
    if c.required then .error missingColon
    else .ok { p with candidates := none :: rest }
  | _ => .ok p

/-- Makes the next token a candidate, where a key may start. -/
def keepCandidate (p : Progress) : Except Fault Progress :=
  if p.keyAllowed then
    match p.dropCandidate with
    | .error f => .error f
    | .ok p =>
      let required := !p.inFlow && p.indent == p.mark.column
      .ok { p with candidates := some ⟨p.count, required, p.mark⟩ :: p.candidates.tail }
  else .ok p

/-- The number of tokens whose meaning is settled: those in front of all candidates. -/
def settled (p : Progress) : Nat :=
  p.candidates.foldl (fun n c => (c.map fun c => min n c.place).getD n) p.count

/-! ## Blocks -/

/-- Closes the blocks that are deeper than a column. -/
def closeBlocks (p : Progress) (column : Int) : List Int → Progress
  | [] => p
  | around :: rest =>
    if column < p.indent then
      { p.add .blockEnd with indent := around, outer := rest }.closeBlocks column rest
    else p

/-- Closes blocks down to a column, outside of brackets. -/
def unroll (p : Progress) (column : Int) : Progress :=
  if p.inFlow then p else p.closeBlocks column p.outer

/-- Opens a block at a column if it is deeper than the innermost one, outside of brackets;
its token goes in front of a former one when a place is given. -/
def roll (p : Progress) (place : Option Nat) (token : Token) (column : Nat) : Progress :=
  if p.inFlow || (column : Int) ≤ p.indent then p
  else
    let p := { p with indent := column, outer := p.indent :: p.outer }
    match place with
    | none => p.add token
    | some place => p.addAt place token

/-! ## Single tokens -/

/-- Adds a token of a number of characters at the cursor. -/
def takeMark (p : Progress) (token : Token) (size : Nat) : Progress :=
  (p.add token).moveTo (p.cursor.skip size)

def takeEnd (p : Progress) : Except Fault Progress :=
  (p.unroll (-1)).dropCandidate.map fun p => p.add .textEnd

def takeBound (p : Progress) (token : Token) : Except Fault Progress :=
  (p.unroll (-1)).dropCandidate.map fun p => (p.allowKey false).takeMark token 3

def takeOpen (p : Progress) (token : Token) : Except Fault Progress :=
  p.keepCandidate.map fun p =>
    ({ p with candidates := none :: p.candidates, keyAllowed := true }).takeMark token 1

def takeClose (p : Progress) (token : Token) : Except Fault Progress :=
  p.dropCandidate.map fun p =>
    let candidates := if p.inFlow then p.candidates.tail else p.candidates
    ({ p with candidates, keyAllowed := false }).takeMark token 1

def takeSeparator (p : Progress) : Except Fault Progress :=
  p.dropCandidate.map fun p => (p.allowKey true).takeMark .separator 1

def takeElement (p : Progress) : Except Fault Progress :=
  if !p.inFlow && !p.keyAllowed then .error (.broken .elementNotAllowed none)
  else (p.roll none .blockList p.mark.column).dropCandidate.map fun p =>
    (p.allowKey true).takeMark .element 1

def takeKey (p : Progress) : Except Fault Progress :=
  if !p.inFlow && !p.keyAllowed then .error (.broken .keyNotAllowed none)
  else (p.roll none .blockMap p.mark.column).dropCandidate.map fun p =>
    (p.allowKey (!p.inFlow)).takeMark .key 1

/-- The indicator of a value. It makes the candidate before it a key. -/
def takeValue (p : Progress) : Except Fault Progress :=
  match p.candidates with
  | some c :: rest =>
    let p := { p with candidates := none :: rest }
    let p := (p.addAt c.place .key).roll (some c.place) .blockMap c.mark.column
    .ok ((p.allowKey false).takeMark .value 1)
  | _ =>
    if !p.inFlow && !p.keyAllowed then .error (.broken .valueNotAllowed none)
    else
      let p := p.roll none .blockMap p.mark.column
      .ok ((p.allowKey (!p.inFlow)).takeMark .value 1)

/-- Whether the name of an anchor may end where a text starts. -/
def nameEnds (rest : List Char) : Bool :=
  wordEnds rest || rest.head?.any ['?', ':', ',', ']', '\x7d', '%', '@', '\x60'].contains

def takeName (p : Progress) (token : List Char → Token) (activity : Activity) :
    Except Fault Progress :=
  match p.keepCandidate with
  | .error f => .error f
  | .ok p =>
    let (name, c) := (p.cursor.skip 1).takeWhile isWord
    if name.isEmpty || !nameEnds c.rest then .error (.met .badAnchor activity)
    else .ok (((p.allowKey false).add (token name)).moveTo c)

/-! ## Tags and directives -/

/-- The characters of a tag besides those of words. -/
def tagMarks : List Char :=
  [';', '/', '?', ':', '@', '&', '=', '+', '$', '.', '!', '~', '*', '\'', '(', ')']

/-- A character of a tag; commas and brackets only where nothing else can follow. -/
def isTagChar (whole : Bool) (c : Char) : Bool :=
  isWord c || tagMarks.contains c || whole && (c = ',' || c = '[' || c = ']')

/-- The byte that is escaped at the start of a text. -/
def escapedByte? : List Char → Option Nat
  | '%' :: a :: b :: _ =>
    (Text.hexDigit? a).bind fun x => (Text.hexDigit? b).map fun y => x * 16 + y
  | _ => none

/-- The number of bytes behind the first byte of a character. -/
def furtherBytes? (first : Nat) : Option Nat :=
  if first < 0x80 then some 0
  else if first < 0xc0 then none
  else if first < 0xe0 then some 1
  else if first < 0xf0 then some 2
  else if first < 0xf8 then some 3
  else none

/-- Scans a number of escaped bytes behind the first one of a character. -/
def takeFurtherBytes : Nat → List UInt8 → Cursor → Except Problem (List UInt8 × Cursor)
  | 0, bytes, c => .ok (bytes, c)
  | n + 1, bytes, c =>
    match escapedByte? c.rest with
    | none => .error .badTagEscape
    | some b =>
      if b < 0x80 || 0xc0 ≤ b then .error .badFurtherByte
      else takeFurtherBytes n (bytes ++ [b.toUInt8]) (c.skip 3)

def takeEscaped (c : Cursor) : Except Problem (List UInt8 × Cursor) :=
  match escapedByte? c.rest with
  | none => .error .badTagEscape
  | some b =>
    match furtherBytes? b with
    | none => .error .badFirstByte
    | some n => takeFurtherBytes n [b.toUInt8] (c.skip 3)

/-- Scans the text of a tag; gives its bytes. -/
def takeTagText (whole : Bool) : Nat → List UInt8 → Cursor → Except Problem (List UInt8 × Cursor)
  | 0, bytes, c => .ok (bytes, c)
  | fuel + 1, bytes, c =>
    match c.rest with
    | [] => .ok (bytes, c)
    | ch :: _ =>
      if ch = '%' then
        match takeEscaped c with
        | .error p => .error p
        | .ok (more, c) => takeTagText whole fuel (bytes ++ more) c
      else if isTagChar whole ch then
        takeTagText whole fuel (bytes ++ [ch.toUInt8]) (c.skip 1)
      else .ok (bytes, c)

/-- A tag ends at its first zero byte. -/
def upToZero (bytes : List UInt8) : List UInt8 := bytes.takeWhile (· != 0)

/-- Scans the handle of a tag: an exclamation mark, and a word with another one behind. -/
def takeHandle (c : Cursor) : List Char × Cursor :=
  let (word, c) := (c.skip 1).takeWhile isWord
  if c.before '!' then ('!' :: word ++ ['!'], c.skip 1) else ('!' :: word, c)

def bareTag : List UInt8 := ['!'.toUInt8]

/-- Scans a tag: its handle and the rest. -/
def scanTag (inFlow : Bool) (c : Cursor) : Except Fault (List Char × List UInt8 × Cursor) :=
  let finish (handle : List Char) (rest : List UInt8) (c : Cursor) :=
    if inFlow && c.before ',' || wordEnds c.rest then Except.ok (handle, rest, c)
    else .error (.met .noTagSpace .tag)
  if c.rest[1]? = some '<' then
    match takeTagText true c.rest.length [] (c.skip 2) with
    | .error p => .error (.met p .tagText)
    | .ok (rest, c) =>
      if rest.isEmpty then .error (.met .noTagText .tagText)
      else if !c.before '>' then .error (.met .noTagClose .tag)
      else finish [] (upToZero rest) (c.skip 1)
  else
    let (handle, c) := takeHandle c
    match takeTagText false (c.rest.length + 1) [] c with
    | .error p => .error (.met p .tagText)
    | .ok (rest, c) =>
      if 1 < handle.length && handle.getLast? = some '!' then
        if rest.isEmpty then .error (.met .noTagText .tagText)
        else finish handle (upToZero rest) c
      else
        match upToZero (handle.tail.map Char.toUInt8 ++ rest) with
        | [] => finish [] bareTag c
        | rest => finish ['!'] rest c

def takeTag (p : Progress) : Except Fault Progress :=
  match p.keepCandidate with
  | .error f => .error f
  | .ok p =>
    match scanTag p.inFlow p.cursor with
    | .error f => .error f
    | .ok (handle, rest, c) => .ok (((p.allowKey false).add (.tag handle rest)).moveTo c)

/-- The greatest number of digits of a version number. -/
def longestVersion : Nat := 9

def takeVersionPart (c : Cursor) : Except Fault (Nat × Cursor) :=
  let (digits, next) := c.takeWhile Char.isDigit
  if longestVersion < digits.length then .error (.met .longVersionNumber .versionDirective)
  else if digits.isEmpty then .error (.met .noVersionNumber .versionDirective)
  else .ok (Nat.ofDigitChars 10 digits 0, next)

def scanVersion (c : Cursor) : Except Fault (Token × Cursor) :=
  match takeVersionPart (c.dropWhile isBlank) with
  | .error f => .error f
  | .ok (major, c) =>
    if !c.before '.' then .error (.met .noVersionPoint .versionDirective)
    else
      match takeVersionPart (c.skip 1) with
      | .error f => .error f
      | .ok (minor, c) => .ok (.version major minor, c)

def scanMeaning (c : Cursor) : Except Fault (Token × Cursor) :=
  let c := c.dropWhile isBlank
  if !c.before '!' then .error (.met .noTagMark .tagHandle)
  else
    let (handle, c) := takeHandle c
    if 1 < handle.length && handle.getLast? ≠ some '!' then
      .error (.met .noTagMark .tagHandleText)
    else if c.rest.isEmpty || !c.rest.head?.any isBlank then
      .error (.met .noSpace .tagDirective)
    else
      match takeTagText true c.rest.length [] (c.dropWhile isBlank) with
      | .error p => .error (.met p .tagDirectiveText)
      | .ok (meaning, c) =>
        if meaning.isEmpty then .error (.met .noTagText .tagDirectiveText)
        else if !wordEnds c.rest then .error (.met .noTagSpace .tagDirective)
        else .ok (.tagMeaning handle (upToZero meaning), c)

/-- Scans a directive up to the end of its line. -/
def scanDirective (c : Cursor) : Except Fault (Token × Cursor) :=
  let (name, c) := (c.skip 1).takeWhile isWord
  if name.isEmpty then .error (.met .noDirectiveName .directive)
  else if !wordEnds c.rest then .error (.met .badDirectiveName .directive)
  else
    let content :=
      if name = ['Y', 'A', 'M', 'L'] then scanVersion c
      else if name = ['T', 'A', 'G'] then scanMeaning c
      else .error (.met .unknownDirective .directive)
    match content with
    | .error f => .error f
    | .ok (token, c) =>
      let c := c.dropWhile isBlank
      let c := if c.before '#' then c.skipLine else c
      if lineEnds c.rest then .ok (token, c.takeBreak.2)
      else .error (.met .noLineEnd .directive)

def takeDirective (p : Progress) : Except Fault Progress :=
  match (p.unroll (-1)).dropCandidate with
  | .error f => .error f
  | .ok p =>
    match scanDirective p.cursor with
    | .error f => .error f
    | .ok (token, c) => .ok (((p.allowKey false).add token).moveTo c)

/-! ## Scalars -/

def takePlain (p : Progress) : Except Fault Progress :=
  match p.keepCandidate with
  | .error f => .error f
  | .ok p =>
    match scanPlain p.inFlow (p.indent + 1) p.fuel [] .nothing p.cursor with
    | .error f => .error f
    | .ok (text, lines, c) => .ok (((p.allowKey lines).add (.scalar text .plain)).moveTo c)

def takeQuoted (p : Progress) (single : Bool) : Except Fault Progress :=
  match p.keepCandidate with
  | .error f => .error f
  | .ok p =>
    match scanQuoted single p.fuel [] (p.cursor.skip 1) with
    | .error f => .error (if f = .met .endInQuotes .quoted then p.cut.getD f else f)
    | .ok (text, c) => .ok (((p.allowKey false).add (.scalar text .quoted)).moveTo c)

def takeBlock (p : Progress) (literal : Bool) : Except Fault Progress :=
  match p.dropCandidate with
  | .error f => .error f
  | .ok p =>
    match scanBlock literal p.indent (p.cursor.skip 1) with
    | .error e => .error (.met e .block)
    | .ok (text, c) =>
      let token := Token.scalar text (if literal then .literal else .folded)
      .ok (((p.allowKey true).add token).moveTo c)

/-! ## The whole text -/

/-- The mark of the byte order, which may start the text. -/
def byteOrderMark : Char := '\ufeff'

/-- Passes blanks, comments and line ends up to the next token. Tabs are blanks only where
no key may start. -/
def skipGap : Nat → Progress → Progress
  | 0, p => p
  | fuel + 1, p =>
    let c := p.cursor
    let c := if c.mark.index = 0 && c.before byteOrderMark then c.skip 1 else c
    let tabs := p.inFlow || !p.keyAllowed
    let c := c.dropWhile fun ch => ch = ' ' || tabs && ch = '\t'
    let c := if c.before '#' then c.skipLine else c
    if c.rest.isEmpty || !lineEnds c.rest then p.moveTo c
    else skipGap fuel ((p.moveTo c.takeBreak.2).allowKey (p.keyAllowed || !p.inFlow))

def indicators : List Char :=
  ['-', '?', ':', ',', '[', ']', '\x7b', '\x7d', '#', '&', '*', '!', '|', '>', '\'', '\x22', '%',
    '@', '\x60']

/-- Whether a plain scalar starts with a character in front of a text. -/
def startsPlain (inFlow : Bool) (c : Char) (rest : List Char) : Bool :=
  !(isBlank c || isBreak c || indicators.contains c)
    || c = '-' && !rest.head?.any isBlank
    || !inFlow && (c = '?' || c = ':') && !wordEnds rest

def takeAt (p : Progress) (c : Char) (rest : List Char) : Except Fault Progress :=
  if p.mark.column = 0 && c = '%' then p.takeDirective
  else if p.cursor.beforeRule '-' then p.takeBound .documentStart
  else if p.cursor.beforeRule '.' then p.takeBound .documentEnd
  else if c = '[' then p.takeOpen .openList
  else if c = '\x7b' then p.takeOpen .openMap
  else if c = ']' then p.takeClose .closeList
  else if c = '\x7d' then p.takeClose .closeMap
  else if c = ',' then p.takeSeparator
  else if c = '-' && wordEnds rest then p.takeElement
  else if c = '?' && (p.inFlow || wordEnds rest) then p.takeKey
  else if c = ':' && (p.inFlow || wordEnds rest) then p.takeValue
  else if c = '*' then p.takeName .alias .alias
  else if c = '&' then p.takeName .anchor .anchor
  else if c = '!' then p.takeTag
  else if c = '|' && !p.inFlow then p.takeBlock true
  else if c = '>' && !p.inFlow then p.takeBlock false
  else if c = '\'' then p.takeQuoted true
  else if c = '\x22' then p.takeQuoted false
  else if startsPlain p.inFlow c rest then p.takePlain
  else .error (.met .badStart .nextToken)

/-- The number of characters that tell how a token starts. -/
def startLength : Nat := 4

def settle (p : Progress) : Except Fault Progress :=
  match (skipGap p.fuel p).reach 1 with
  | .error f => .error f
  | .ok p =>
    match p.dropOutdated with
    | .error f => .error f
    | .ok p => (p.unroll p.mark.column).reach startLength

end Progress

/-- The tokens of a text, up to the last one that is settled when its first fault is met. -/
structure Tokens where
  list : List Token
  fault : Option Fault

def Progress.take (p : Progress) : Except Fault Progress :=
  match p.settle with
  | .error f => .error f
  | .ok p =>
    match p.cursor.rest with
    | [] => p.takeEnd
    | c :: rest =>
      match p.takeAt c rest with
      | .error f => .error f
      | .ok p =>
        match p.reach 1 with
        | .error f => .error f
        | .ok p => p.dropOutdated

/-- Takes tokens until the text ends. Every token takes a character, so the fuel lasts. -/
def Progress.finish : Nat → Progress → Tokens
  | 0, p => ⟨p.tokens.reverse, none⟩
  | fuel + 1, p =>
    match p.take with
    | .error f => ⟨p.tokens.reverse.take p.settled, some f⟩
    | .ok next =>
      if next.tokens.head? = some .textEnd then ⟨next.tokens.reverse, none⟩ else finish fuel next

def isAllowed (c : Char) : Bool :=
  let n := c.toNat
  n = 0x09 || n = 0x0a || n = 0x0d || 0x20 ≤ n && n ≤ 0x7e || n = 0x85
    || 0xa0 ≤ n && n ≤ 0xfffd || 0x10000 ≤ n

/-- The greatest number of bytes that are read at once. -/
def pieceSize : Nat := 16384

/-- The part of a text that can be read, and the place in bytes of the first character that
the text may not hold. A text is read in pieces, and a piece with such a character cannot
be read. The piece so far is given from its end, with the places where it starts and where
the rest of the text starts. -/
def readable (start offset : Nat) (piece : List Char) : List Char → List Char × Option Nat
  | [] => (piece.reverse, none)
  | c :: cs =>
    let next := offset + c.utf8Size
    if start + pieceSize < next then
      let (more, forbidden) := if isAllowed c then readable offset next [c] cs else ([], some offset)
      (piece.reverse ++ more, forbidden)
    else if isAllowed c then readable start next (c :: piece) cs
    else ([], some offset)

def Tokens.ofText (text : List Char) : Tokens :=
  let (text, forbidden) := readable 0 0 [] text
  let fuel := text.length + 1
  Progress.finish fuel { cursor := ⟨text, {}⟩, fuel, cut := forbidden.map .forbidden }

end Flotilla.Yaml
