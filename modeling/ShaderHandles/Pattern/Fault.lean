/-!
# Faults of a pattern

A fault has a cause and a part of the pattern, and sometimes an earlier part that this one clashes
with. It is shown under the pattern, with carets under the parts.

* `Cause.message`: the wording of a cause.
* `Fault.lines`: the lines that show a fault.
-/

namespace ShaderHandles.Pattern

/-- Why a text is not a pattern. -/
inductive Cause where
  | escapeInBrackets
  | rangeBackwards
  | rangeEnd
  | bracketUnclosed
  | numberTooGreat
  | hexEmpty
  | hexNoCharacter
  | hexDigit
  | escapeUnfinished
  | escapeUnknown
  | negationDangling
  | flagRepeated
  | negationRepeated
  | flagMissing
  | flagUnknown
  | nameRepeated
  | nameEmpty
  | nameCharacter
  | nameUnclosed
  | groupUnclosed
  | groupUnopened
  | countBackwards
  | countMissing
  | countUnclosed
  | nothingToRepeat
  | boundaryUnclosed
  | boundaryUnknown
  | boundaryUnfinished
  | propertyMalformed
  | backreference
  | lookAround
  | tooNested
  | propertyUnknown
  | propertyValueUnknown
  | shorthandUnknown
  | caseUnknown
  | notInBytes
  | beyondAscii
  deriving DecidableEq

def Cause.message : Cause → String
  | escapeInBrackets => "invalid escape sequence found in character class"
  | rangeBackwards => "invalid character class range, the start must be <= the end"
  | rangeEnd => "invalid range boundary, must be a literal"
  | bracketUnclosed => "unclosed character class"
  | numberTooGreat => "decimal literal invalid"
  | hexEmpty => "hexadecimal literal empty"
  | hexNoCharacter => "hexadecimal literal is not a Unicode scalar value"
  | hexDigit => "invalid hexadecimal digit"
  | escapeUnfinished => "incomplete escape sequence, reached end of pattern prematurely"
  | escapeUnknown => "unrecognized escape sequence"
  | negationDangling => "dangling flag negation operator"
  | flagRepeated => "duplicate flag"
  | negationRepeated => "flag negation operator repeated"
  | flagMissing => "expected flag but got end of regex"
  | flagUnknown => "unrecognized flag"
  | nameRepeated => "duplicate capture group name"
  | nameEmpty => "empty capture group name"
  | nameCharacter => "invalid capture group character"
  | nameUnclosed => "unclosed capture group name"
  | groupUnclosed => "unclosed group"
  | groupUnopened => "unopened group"
  | countBackwards => "invalid repetition count range, the start must be <= the end"
  | countMissing => "repetition quantifier expects a valid decimal"
  | countUnclosed => "unclosed counted repetition"
  | nothingToRepeat => "repetition operator missing expression"
  | boundaryUnclosed =>
    "special word boundary assertion is either unclosed or contains an invalid character"
  | boundaryUnknown =>
    "unrecognized special word boundary assertion, valid choices are: start, end, start-half " ++
      "or end-half"
  | boundaryUnfinished =>
    "found either the beginning of a special word boundary or a bounded repetition on a \\b " ++
      "with an opening brace, but no closing brace"
  | propertyMalformed => "invalid Unicode character class"
  | backreference => "backreferences are not supported"
  | lookAround => "look-around, including look-ahead and look-behind, is not supported"
  | tooNested => "exceed the maximum number of nested parentheses/brackets (250)"
  | propertyUnknown => "Unicode property not found"
  | propertyValueUnknown => "Unicode property value not found"
  | shorthandUnknown =>
    "Unicode-aware Perl class not found (make sure the unicode-perl feature is enabled)"
  | caseUnknown =>
    "Unicode-aware case insensitivity matching is not available (make sure the unicode-case " ++
      "feature is enabled)"
  | notInBytes => "Unicode not allowed here"
  | beyondAscii => "pattern can match invalid UTF-8"

/-- A part of a pattern, by the numbers of characters before its start and before its end. -/
structure Span where
  start : Nat
  stop : Nat
  deriving DecidableEq

/-- Why and where a text is not a pattern. -/
structure Fault where
  cause : Cause
  span : Span
  /-- The earlier part that this one clashes with. -/
  earlier : Option Span := none
  deriving DecidableEq

/-! ## Places of a pattern -/

/-- Line and column, both counted from one. -/
structure Place where
  line : Nat := 1
  column : Nat := 1
  deriving DecidableEq

def Place.after (place : Place) (c : Char) : Place :=
  if c == '\n' then { line := place.line + 1 } else { place with column := place.column + 1 }

/-- The place that a number of characters come before. -/
def Place.of (pattern : List Char) (offset : Nat) : Place :=
  (pattern.take offset).foldl Place.after {}

/-! ## Showing a fault -/

/-- A part of a pattern by its places. -/
structure Region where
  first : Place
  last : Place

/-- The places of a part of a pattern. -/
def Span.region (pattern : List Char) (span : Span) : Region :=
  ⟨Place.of pattern span.start, Place.of pattern span.stop⟩

def Region.isOnOneLine (region : Region) : Bool := region.first.line == region.last.line

/-- The parts that a fault names, in the order of the pattern. -/
def Fault.spans (fault : Fault) : List Span :=
  match fault.earlier with
  | none => [fault.span]
  | some earlier =>
    if earlier.start < fault.span.start ||
        (earlier.start == fault.span.start && earlier.stop ≤ fault.span.stop) then
      [earlier, fault.span]
    else [fault.span, earlier]

/-- The lines of a text. A line feed ends a line, with a carriage return before it or without. -/
def textLines : List Char → List (List Char)
  | [] => []
  | '\n' :: rest => [] :: textLines rest
  | '\r' :: '\n' :: rest => [] :: textLines rest
  | c :: rest =>
    match textLines rest with
    | [] => [[c]]
    | line :: lines => (c :: line) :: lines

/-- The carets under the regions of one line. -/
def carets (regions : List Region) : List Char :=
  regions.foldl (fun line region =>
    line ++ List.replicate (region.first.column - 1 - line.length) ' ' ++
      List.replicate (max 1 (region.last.column - region.first.column)) '^') []

/-- The text of a number, padded on the left. -/
def padded (width n : Nat) : List Char :=
  let digits := (toString n).toList
  List.replicate (width - digits.length) ' ' ++ digits

/-- The lines of a pattern, each with carets under the regions that are on it. Several lines are
numbered. -/
def notated (pattern : List Char) (regions : List Region) : List (List Char) :=
  let lines := textLines pattern
  let count := lines.length + if pattern.getLast? = some '\n' then 1 else 0
  let width := if count ≤ 1 then 0 else (toString count).length
  lines.zipIdx.flatMap fun (line, i) =>
    let margin := if width = 0 then [] else padded width (i + 1) ++ [':', ' ']
    let indent := List.replicate (if width = 0 then 4 else 2 + width) ' '
    let marked := regions.filter fun region =>
      region.isOnOneLine && region.first.line == i + 1
    ((if width = 0 then indent else margin) ++ line) ::
      if marked.isEmpty then [] else [indent ++ carets marked]

/-- The line about a region on several lines. -/
def Region.note (region : Region) : String :=
  "on line " ++ toString region.first.line ++ " (column " ++ toString region.first.column ++
    ") through line " ++ toString region.last.line ++ " (column " ++
    toString (region.last.column - 1) ++ ")"

/-- The lines that show a fault: the pattern with carets, then the wording of the cause. -/
def Fault.lines (fault : Fault) (pattern : List Char) : List String :=
  let regions := fault.spans.map (Span.region pattern)
  let shown := (notated pattern regions).map String.ofList
  let divider := String.ofList (List.replicate 79 '~')
  let inside :=
    if pattern.contains '\n' then
      divider :: shown ++
        divider :: (regions.filter fun region => !region.isOnOneLine).map Region.note
    else shown
  "regex parse error:" :: inside ++ ["error: " ++ fault.cause.message]

end ShaderHandles.Pattern
