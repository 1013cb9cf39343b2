import ShaderHandles.Pattern.Written
import ShaderHandles.Text.Blank
import ShaderHandles.Text.Hex

/-!
# Scanning a pattern

A scan goes through the text of a pattern from left to right. It carries whether blanks count, and
the groups that have been opened. A fault of form stops it at once.

* `Cursor`: the place and what is carried.
* `Scan`: a step of a scan.
* `readEscape`: what stands after a backslash.
-/

namespace ShaderHandles.Pattern

structure Cursor where
  rest : List Char
  /-- The number of characters of the whole pattern. -/
  size : Nat
  /-- Blanks and comments in the pattern count for nothing. -/
  ignoreBlanks : Bool := false
  /-- How many numbered groups have been opened. -/
  groups : Nat := 0
  /-- The names of groups, with their places. -/
  names : List (List Char × Span) := []

/-- The number of characters before the place. -/
def Cursor.offset (cursor : Cursor) : Nat := cursor.size - cursor.rest.length

/-- A step of a scan. -/
abbrev Scan := StateT Cursor (Except Fault)

namespace Scan

/-- The number of characters before the place. -/
def offset : Scan Nat := return (← get).offset

/-- The character at the place, if there is one. -/
def peek? : Scan (Option Char) := return (← get).rest.head?

/-- Stops with a fault of form. -/
def stop {α : Type} (cause : Cause) (span : Span) : Scan α := throw { cause, span }

/-- Stops with a fault of form between a place and here. -/
def stopSince {α : Type} (cause : Cause) (start : Nat) : Scan α := do
  stop cause ⟨start, ← offset⟩

/-- Stops with a fault of form at the place, where no character is meant. -/
def stopHere {α : Type} (cause : Cause) : Scan α := do stopSince cause (← offset)

/-- Stops with a fault of form at the character of the place. -/
def stopAtChar {α : Type} (cause : Cause) : Scan α := do
  let start ← offset
  stop cause ⟨start, start + 1⟩

/-- Goes over the character of the place. -/
def bump : Scan Unit := modify fun cursor => { cursor with rest := cursor.rest.tail }

/-- What is left after blanks and after comments, which go from a hash to the end of the line. -/
def dropBlanks : (inComment : Bool) → List Char → List Char
  | _, [] => []
  | true, c :: rest => dropBlanks (c != '\n') rest
  | false, c :: rest =>
    if Text.isBlank c then dropBlanks false rest
    else if c == '#' then dropBlanks true rest
    else c :: rest

/-- Goes over blanks and comments if they count for nothing. -/
def skipBlanks : Scan Unit :=
  modify fun cursor =>
    if cursor.ignoreBlanks then { cursor with rest := dropBlanks false cursor.rest }
    else cursor

/-- Goes over the character of the place, and then over blanks if they count for nothing. -/
def advance : Scan Unit := do
  bump
  skipBlanks

/-- Goes over a word if it stands at the place. -/
def accept (word : String) : Scan Bool := do
  let cursor ← get
  if word.toList.isPrefixOf cursor.rest then
    set { cursor with rest := cursor.rest.drop word.length }
    return true
  else return false

/-- The first character that is no blank. The first hash is passed over too, but not the comment
that it begins. -/
def nextMark? : (hashAllowed : Bool) → List Char → Option Char
  | _, [] => none
  | hashAllowed, c :: rest =>
    if Text.isBlank c then nextMark? hashAllowed rest
    else if hashAllowed && c == '#' then nextMark? false rest
    else some c

/-- The character after the one at the place. -/
def peekNext? : Scan (Option Char) := do
  let cursor ← get
  let rest := cursor.rest.tail
  return if cursor.ignoreBlanks then (nextMark? true rest).or rest.head? else rest.head?

/-- The characters of a class from the place on, at most `count` of them. -/
def takeWhile (p : Char → Bool) : (count : Nat) → Scan (List Char)
  | 0 => return []
  | count + 1 => do
    match ← peek? with
    | some c =>
      if p c then
        advance
        return c :: (← takeWhile p count)
      else return []
    | none => return []

/-- All characters of a class from the place on. -/
def takeAll (p : Char → Bool) : Scan (List Char) := do takeWhile p (← get).rest.length

end Scan

open Scan

/-! ## Escapes -/

/-- What a single character or an escape stands for. -/
inductive Primitive where
  | literal (character : Literal)
  | sign (sign : SetSign)
  | anchor (sign : AnchorSign)

def characterOf? (digits : List Char) : Option Char := do
  let n ← Text.hexNumber? digits
  if n.isValidChar then some (Char.ofNat n) else none

/-- A fixed number of hexadecimal digits. -/
def readDigits : (count : Nat) → Scan (List Char)
  | 0 => return []
  | count + 1 => do
    match ← peek? with
    | none => stopHere .escapeUnfinished
    | some c =>
      if (Text.hexValue? c).isNone then stopAtChar .hexDigit
      advance
      return c :: (← readDigits count)

/-- A character by its number: a fixed count of hexadecimal digits, or any count in braces. -/
def readHex (count : Nat) : Scan Char := do
  let start ← offset
  match ← peek? with
  | none => stopHere .escapeUnfinished
  | some '\x7b' =>
    advance
    let digits ← takeAll fun c => (Text.hexValue? c).isSome
    match ← peek? with
    | none => stopSince .escapeUnfinished start
    | some '\x7d' =>
      let last ← offset
      advance
      if digits.isEmpty then stopSince .hexEmpty start
      match characterOf? digits with
      | some c => return c
      | none => stop .hexNoCharacter ⟨start + 1, last⟩
    | some _ => stopAtChar .hexDigit
  | some _ =>
    let digits ← readDigits count
    match characterOf? digits with
    | some c => return c
    | none => stopSince .hexNoCharacter start

def readPropertyName : Scan (List Char) := do
  match ← peek? with
  | none => stopHere .escapeUnfinished
  | some '\x7b' =>
    advance
    let name ← takeAll (· != '\x7d')
    if (← peek?).isNone then stopHere .escapeUnfinished
    bump
    return name
  | some '\\' => stopAtChar .propertyMalformed
  | some c =>
    advance
    return [c]

/-- The edges of words that may be named in braces after the letter of a boundary. -/
def edges : List (String × WordEdge) :=
  [("start", .start), ("end", .stop), ("start-half", .startHalf), ("end-half", .stopHalf)]

/-- Whether a character can belong to a word in braces after the letter of a boundary. -/
def isBoundaryChar (c : Char) : Bool := c.isAlpha || c == '-'

/-- A boundary after its letter. A brace may begin a word that says which boundary is meant, or a
repetition, which is left to be read later. -/
def readBoundary (start : Nat) : Scan WordEdge := do
  if (← peek?) != some '\x7b' then return .boundary
  let before ← get
  let brace ← offset
  advance
  let first ← offset
  match ← peek? with
  | none => stopSince .boundaryUnfinished start
  | some c =>
    if isBoundaryChar c then
      let word ← takeAll isBoundaryChar
      if (← peek?) != some '\x7d' then stopSince .boundaryUnclosed brace
      let last ← offset
      bump
      match edges.lookup (String.ofList word) with
      | some edge => return edge
      | none => stop .boundaryUnknown ⟨first, last⟩
    else
      set before
      return .boundary

/-- Whether a character after a backslash stands for itself. -/
def isPlainEscape (c : Char) : Bool :=
  c.toNat < 0x80 && !c.isAlphanum && c != '<' && c != '>'

/-- The controls that letters stand for. -/
def controlEscapes : List (Char × Char) :=
  [('a', '\x07'), ('f', '\x0c'), ('t', '\t'), ('n', '\n'), ('r', '\r'), ('v', '\x0b')]

/-- The demands on a place that letters stand for. -/
def anchorEscapes : List (Char × AnchorSign) :=
  [('A', .textStart), ('z', .textEnd), ('B', .word .noBoundary), ('<', .word .start),
    ('>', .word .stop)]

/-- The sets that letters stand for. An upper-case letter stands for the complement. -/
def shorthands : List (Char × List CodeRange) :=
  [('d', CodeRange.digits), ('s', CodeRange.space), ('w', CodeRange.word)]

/-- The numbers of hexadecimal digits after the letters that call for them. -/
def hexEscapes : List (Char × Nat) := [('x', 2), ('u', 4), ('U', 8)]

/-- The letter of an escape that is one byte when its digits are not in braces. -/
def byteLetter : Char := 'x'

/-- What an escape stands for. The place is at its backslash. -/
def readEscape : Scan Primitive := do
  let start ← offset
  let literal (character : Char) (isByte : Bool) : Scan Primitive := do
    return .literal { span := ⟨start, ← offset⟩, character, isByte }
  bump
  match ← peek? with
  | none => stopSince .escapeUnfinished start
  | some c =>
    if c.isDigit then
      stop .backreference ⟨start, (← offset) + 1⟩
    else if let some count := hexEscapes.lookup c then
      advance
      let isByte := c == byteLetter && (← peek?) != some '\x7b'
      literal (← readHex count) isByte
    else if c == 'p' || c == 'P' then
      advance
      return .sign (.property (← readPropertyName))
    else
      bump
      if isPlainEscape c then literal c false
      else if let some control := controlEscapes.lookup c then literal control false
      else if let some sign := anchorEscapes.lookup c then return .anchor sign
      else if let some ranges := shorthands.lookup c.toLower then
        return .sign (.shorthand ranges c.isUpper)
      else if c == 'b' then return .anchor (.word (← readBoundary start))
      else stopSince .escapeUnknown start

end ShaderHandles.Pattern
