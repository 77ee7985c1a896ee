import Flotilla.Text.Basic
import Flotilla.Yaml.Fault

/-! # Scalars of a YAML text

A scalar is plain, quoted, or a block of lines. In plain and quoted scalars a line
end stands for a blank, and each further one for itself; blanks around line ends
stand for nothing. -/
namespace Flotilla.Yaml

/-- How a scalar is written. A block keeps its line ends when it is literal and folds them
when it is not. -/
inductive Style where
  | plain
  | quoted
  | literal
  | folded
deriving DecidableEq, Repr

/-! ## Gaps -/

/-- What stands between two words of a scalar. -/
inductive Gap where
  | nothing
  | blanks (text : List Char)
  | lines (first more : List Char)
deriving DecidableEq

def Gap.text : Gap → List Char
  | .nothing => []
  | .blanks text => text
  | .lines first more =>
    if first = ['\n'] then (if more.isEmpty then [' '] else more) else first ++ more

def Gap.hasLines : Gap → Bool
  | .lines .. => true
  | _ => false

def Gap.addBlank (c : Char) : Gap → Gap
  | .nothing => .blanks [c]
  | .blanks text => .blanks (text ++ [c])
  | .lines first more => .lines first more

def Gap.addBreak (text : List Char) : Gap → Gap
  | .lines first more => .lines first (more ++ text)
  | _ => .lines text []

/-- Passes the blanks and line ends of a gap. A tab in front of the column where a scalar
may go on is refused; without such a column tabs are free. -/
def takeGap (column : Option Int) : Nat → Gap → Cursor → Except Problem (Gap × Cursor)
  | 0, gap, c => .ok (gap, c)
  | fuel + 1, gap, c =>
    match c.rest with
    | [] => .ok (gap, c)
    | ch :: _ =>
      if isBlank ch then
        if ch = '\t' && gap.hasLines && column.any fun k => (c.mark.column : Int) < k then
          .error .tabInIndentation
        else takeGap column fuel (gap.addBlank ch) (c.skip 1)
      else if isBreak ch then
        let (text, c) := c.takeBreak
        takeGap column fuel (gap.addBreak text) c
      else .ok (gap, c)

/-! ## Plain scalars -/

/-- A character that has a meaning of its own inside of brackets. -/
def isFlowMark (c : Char) : Bool :=
  c = ',' || c = '[' || c = ']' || c = '\x7b' || c = '\x7d'

/-- How the run of characters ends that a plain scalar can take at once. -/
structure Run where
  text : List Char
  bad : Bool

/-- The run of characters in front of a gap or of the end of a plain scalar. -/
def plainRun (flow : Bool) : List Char → Run
  | [] => ⟨[], false⟩
  | c :: rest =>
    if isBlank c || isBreak c then ⟨[], false⟩
    else if flow && c = ':' && rest.head?.any fun n => isFlowMark n || n = '?' then ⟨[], true⟩
    else if c = ':' && wordEnds rest || flow && isFlowMark c then ⟨[], false⟩
    else
      let run := plainRun flow rest
      { run with text := c :: run.text }

/-- Scans a plain scalar; gives its text and whether a line end follows it. -/
def scanPlain (flow : Bool) (column : Int) :
    Nat → List Char → Gap → Cursor → Except Fault (List Char × Bool × Cursor)
  | 0, text, gap, c => .ok (text, gap.hasLines, c)
  | fuel + 1, text, gap, c =>
    if c.beforeBound || c.before '#' then .ok (text, gap.hasLines, c)
    else
      let run := plainRun flow c.rest
      let c := c.skip run.text.length
      if run.bad then .error (.met .unexpectedColon .plain)
      else
        let (text, gap) :=
          if run.text.isEmpty then (text, gap) else (text ++ gap.text ++ run.text, .nothing)
        if c.rest.isEmpty || !wordEnds c.rest then .ok (text, gap.hasLines, c)
        else
          match takeGap (some column) fuel gap c with
          | .error p => .error (.met p .plain)
          | .ok (gap, c) =>
            if !flow && (c.mark.column : Int) < column then .ok (text, gap.hasLines, c)
            else scanPlain flow column fuel text gap c

/-! ## Quoted scalars -/

def escaped? : Char → Option Char
  | '0' => some '\x00'
  | 'a' => some '\x07'
  | 'b' => some '\x08'
  | 't' | '\t' => some '\t'
  | 'n' => some '\n'
  | 'v' => some '\x0b'
  | 'f' => some '\x0c'
  | 'r' => some '\r'
  | 'e' => some '\x1b'
  | ' ' => some ' '
  | '\x22' => some '\x22'
  | '/' => some '/'
  | '\\' => some '\\'
  | 'N' => some '\u0085'
  | '_' => some '\u00a0'
  | 'L' => some '\u2028'
  | 'P' => some '\u2029'
  | _ => none

/-- The number of hexadecimal digits behind the letter of an escape by code. -/
def codeLength? : Char → Option Nat
  | 'x' => some 2
  | 'u' => some 4
  | 'U' => some 8
  | _ => none

def hexValue? (digits : List Char) : Option Nat :=
  digits.foldlM (fun n c => (Text.hexDigit? c).map fun d => n * 16 + d) 0

/-- The character of an escape by code. -/
def codeChar (length : Nat) (digits : List Char) : Except Problem Char :=
  let digits := digits.take length
  if digits.length < length then .error .badHex
  else
    match hexValue? digits with
    | none => .error .badHex
    | some n => if n.isValidChar then .ok (Char.ofNat n) else .error .badCodePoint

/-- What a run of a quoted scalar ends with. -/
inductive RunEnd where
  | gap
  | escapedBreak

/-- Scans the characters of a quoted scalar up to a gap or its closing quote. -/
def quotedRun (single : Bool) :
    Nat → List Char → Cursor → Except Fault (List Char × RunEnd × Cursor)
  | 0, text, c => .ok (text, .gap, c)
  | fuel + 1, text, c =>
    match c.rest with
    | [] => .ok (text, .gap, c)
    | ch :: rest =>
      if isBlank ch || isBreak ch then .ok (text, .gap, c)
      else if single then
        if ch = '\'' then
          if rest.head? = some '\'' then quotedRun single fuel (text ++ ['\'']) (c.skip 2)
          else .ok (text, .gap, c)
        else quotedRun single fuel (text ++ [ch]) (c.skip 1)
      else if ch = '\x22' then .ok (text, .gap, c)
      else if ch = '\\' then
        match rest with
        | [] => .error (.met .unknownEscape .escape)
        | e :: digits =>
          if isBreak e then .ok (text, .escapedBreak, (c.skip 1).takeBreak.2)
          else
            match escaped? e, codeLength? e with
            | some r, _ => quotedRun single fuel (text ++ [r]) (c.skip 2)
            | none, some n =>
              match codeChar n digits with
              | .error p => .error (.met p .escape)
              | .ok r => quotedRun single fuel (text ++ [r]) (c.skip (2 + n))
            | none, none => .error (.met .unknownEscape .escape)
      else quotedRun single fuel (text ++ [ch]) (c.skip 1)

def scanQuoted (single : Bool) :
    Nat → List Char → Cursor → Except Fault (List Char × Cursor)
  | 0, _, _ => .error (.met .endInQuotes .quoted)
  | fuel + 1, text, c =>
    if c.beforeBound then .error (.met .boundInQuotes .quoted)
    else if c.rest.isEmpty then .error (.met .endInQuotes .quoted)
    else
      match quotedRun single fuel text c with
      | .error f => .error f
      | .ok (text, last, c) =>
        if c.before (if single then '\'' else '\x22') then .ok (text, c.skip 1)
        else
          let gap := match last with
            | .gap => Gap.nothing
            | .escapedBreak => .lines [] []
          match takeGap none fuel gap c with
          | .error p => .error (.met p .quoted)
          | .ok (gap, c) => scanQuoted single fuel (text ++ gap.text) c

/-! ## Blocks of lines -/

/-- What happens to the line ends behind a block. -/
inductive Chomping where
  | clip
  | strip
  | keep
deriving DecidableEq

/-- The header of a block: its chomping, and its indentation when it is given. -/
structure BlockHeader where
  chomping : Chomping := .clip
  increment : Nat := 0

/-- Scans the chomping of a block, if it is given. -/
def takeChomping (c : Cursor) : Chomping × Cursor :=
  if c.before '+' then (.keep, c.skip 1)
  else if c.before '-' then (.strip, c.skip 1)
  else (.clip, c)

/-- Scans the indentation of a block, if it is given. -/
def takeIncrement (c : Cursor) : Except Problem (Nat × Cursor) :=
  match c.rest with
  | ch :: _ =>
    if ch = '0' then .error .zeroIndentation
    else if ch.isDigit then .ok (ch.toNat - '0'.toNat, c.skip 1)
    else .ok (0, c)
  | [] => .ok (0, c)

/-- Scans the header of a block up to the end of its line. -/
def takeHeader (c : Cursor) : Except Problem (BlockHeader × Cursor) :=
  let (early, c) := takeChomping c
  match takeIncrement c with
  | .error p => .error p
  | .ok (increment, c) =>
    let (chomping, c) :=
      if early = .clip && 0 < increment then takeChomping c else (early, c)
    let c := c.dropWhile isBlank
    let c := if c.before '#' then c.skipLine else c
    if lineEnds c.rest then .ok (⟨chomping, increment⟩, c.takeBreak.2)
    else .error .noLineEnd

/-- Passes the empty lines of a block and the indentation behind them. Gives their line
ends and the deepest indentation met; an indentation of zero is not known yet. -/
def takeEmptyLines (indent : Nat) :
    Nat → List Char → Nat → Cursor → Except Problem (List Char × Nat × Cursor)
  | 0, breaks, deepest, c => .ok (breaks, deepest, c)
  | fuel + 1, breaks, deepest, c =>
    let blanks := (c.rest.takeWhile (· == ' ')).length
    let c := c.skip (if indent = 0 then blanks else min blanks (indent - c.mark.column))
    let deepest := max deepest c.mark.column
    if (indent = 0 || c.mark.column < indent) && c.before '\t' then .error .tabForSpace
    else if c.rest.isEmpty || !lineEnds c.rest then .ok (breaks, deepest, c)
    else
      let (text, c) := c.takeBreak
      takeEmptyLines indent fuel (breaks ++ text) deepest c

/-- The text of a block up to a line, with the line ends that are not settled yet. -/
structure BlockText where
  text : List Char := []
  pending : List Char := []
  breaks : List Char := []
  /-- Whether the line before started with a blank. -/
  shifted : Bool := false

def takeBlockLines (literal : Bool) (indent : Nat) :
    Nat → BlockText → Cursor → Except Problem (BlockText × Cursor)
  | 0, b, c => .ok (b, c)
  | fuel + 1, b, c =>
    if c.mark.column ≠ indent || c.rest.isEmpty then .ok (b, c)
    else
      let blank := c.rest.head?.any isBlank
      let joint :=
        if !literal && b.pending = ['\n'] && !b.shifted && !blank then
          if b.breaks.isEmpty then [' '] else []
        else b.pending
      let (line, c) := c.takeWhile fun ch => !isBreak ch
      let (pending, c) := c.takeBreak
      match takeEmptyLines indent (c.rest.length + 1) [] 0 c with
      | .error e => .error e
      | .ok (breaks, _, c) =>
        takeBlockLines literal indent fuel
          ⟨b.text ++ joint ++ b.breaks ++ line, pending, breaks, blank⟩ c

/-- Scans a block behind its indicator, given the indentation around it. -/
def scanBlock (literal : Bool) (around : Int) (c : Cursor) :
    Except Problem (List Char × Cursor) :=
  match takeHeader c with
  | .error e => .error e
  | .ok (header, c) =>
    let given := if header.increment = 0 then 0 else (max around 0).toNat + header.increment
    match takeEmptyLines given (c.rest.length + 1) [] 0 c with
    | .error e => .error e
    | .ok (breaks, deepest, c) =>
      let indent := if given = 0 then max (max deepest (around + 1).toNat) 1 else given
      match takeBlockLines literal indent (c.rest.length + 1) ⟨[], [], breaks, false⟩ c with
      | .error e => .error e
      | .ok (b, c) =>
        let last := match header.chomping with
          | .strip => []
          | .clip => b.pending
          | .keep => b.pending ++ b.breaks
        .ok (b.text ++ last, c)

end Flotilla.Yaml
