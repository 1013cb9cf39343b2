import ShaderHandles.Pattern.Scan

/-!
# Sets in brackets

Brackets hold characters, ranges, escapes, named sets and further brackets. The operations between
them bind equally and to the left. A caret after the opening bracket asks for the complement.

* `Brackets`: what has been read of brackets.
* `readBrackets`: a set in brackets.
-/

namespace ShaderHandles.Pattern

open Scan

/-- The operation that two equal characters stand for. -/
def SetOperation.ofChar? : Char → Option SetOperation
  | '&' => some intersection
  | '-' => some difference
  | '~' => some symmetricDifference
  | _ => none

/-- What has been read of brackets: the members since the last operation, the last of them first,
where they begin, and what stands before them. -/
structure Brackets where
  place : Nat
  members : List SetMember
  left : Option (SetContent × SetOperation) := none

namespace Brackets

def push (brackets : Brackets) (member : SetMember) : Brackets :=
  { brackets with members := member :: brackets.members }

/-- All that has been read. -/
def content (brackets : Brackets) : SetContent :=
  let last := SetContent.ofMembers brackets.place brackets.members.reverse
  match brackets.left with
  | none => last
  | some (first, operation) => .operation operation first last

/-- An operation after what has been read. -/
def operate (brackets : Brackets) (operation : SetOperation) (place : Nat) : Brackets :=
  { place, members := [], left := some (brackets.content, operation) }

end Brackets

/-- A character or an escape in brackets, and where it stands. -/
def readItem : Scan (Primitive × Span) := do
  let start ← offset
  match ← peek? with
  | some '\\' =>
    let item ← readEscape
    return (item, ⟨start, ← offset⟩)
  | some character =>
    bump
    let span : Span := ⟨start, start + 1⟩
    return (.literal { span, character, isByte := false }, span)
  | none => stopHere .escapeUnfinished

/-- An item that stands alone. -/
def memberOf (item : Primitive) (span : Span) : Scan SetMember :=
  match item with
  | .literal character => return .literal character
  | .sign sign => return .sign span sign
  | .anchor _ => stop .escapeInBrackets span

def boundOf (item : Primitive) (span : Span) : Scan Literal :=
  match item with
  | .literal character => return character
  | _ => stop .rangeEnd span

/-- An item or a range. The opening bracket is named when the pattern ends too early. -/
def readMember (opening : Span) : Scan SetMember := do
  let (first, firstSpan) ← readItem
  skipBlanks
  match ← peek? with
  | none => stop .bracketUnclosed opening
  | some c =>
    let next ← peekNext?
    if c != '-' || next == some ']' || next == some '-' then
      memberOf first firstSpan
    else
      advance
      if (← peek?).isNone then stop .bracketUnclosed opening
      let (last, lastSpan) ← readItem
      let low ← boundOf first firstSpan
      let high ← boundOf last lastSpan
      if high.character < low.character then
        stop .rangeBackwards ⟨firstSpan.start, lastSpan.stop⟩
      return .range low high

/-- A named set between colons. What does not have its form is left to be read otherwise. -/
def readNamed? : Scan (Option SetMember) := do
  let before ← get
  let start ← offset
  if !(← accept "[:") then return none
  let negated ← accept "^"
  let name := (← get).rest.takeWhile (· != ':')
  modify fun cursor => { cursor with rest := cursor.rest.drop name.length }
  let closed ← accept ":]"
  match CodeRange.named? (String.ofList name), closed with
  | some ranges, true => return some (.sign ⟨start, ← offset⟩ (.named ranges negated))
  | _, _ =>
    set before
    return none

/-- The character of the place, which stands for itself. The opening bracket is named when the
pattern ends after it. -/
def readPlain (character : Char) (unclosed : Scan Unit) : Scan SetMember := do
  let start ← offset
  advance
  if (← peek?).isNone then unclosed
  return .literal { span := ⟨start, start + 1⟩, character, isByte := false }

/-- Hyphens at the start of brackets, which stand for themselves; the last of them first. -/
def readHyphens (unclosed : Scan Unit) : (count : Nat) → List SetMember → Scan (List SetMember)
  | 0, members => return members
  | count + 1, members => do
    if (← peek?) == some '-' then
      let hyphen ← readPlain '-' unclosed
      readHyphens unclosed count (hyphen :: members)
    else return members

/-- The start of brackets: whether a complement is asked for, and the hyphens or the closing bracket
that stand for themselves there. -/
def readOpening : Scan (Bool × Brackets) := do
  let start ← offset
  let needMore : Scan Unit := do
    if (← peek?).isNone then stopSince .bracketUnclosed start
  advance
  needMore
  let negated := (← peek?) == some '^'
  if negated then
    advance
    needMore
  let place ← offset
  let hyphens ← readHyphens (stop .bracketUnclosed ⟨start, start⟩) (← get).rest.length []
  if hyphens.isEmpty && (← peek?) == some ']' then
    let bracket ← readPlain ']' (stopSince .bracketUnclosed start)
    return (negated, { place, members := [bracket] })
  return (negated, { place, members := hyphens })

/-- What is inside brackets, up to their end. -/
def readInside (nested : Scan SetMember) (opening : Span) :
    (count : Nat) → Brackets → Scan SetContent
  | 0, _ => stop .bracketUnclosed opening
  | count + 1, brackets => do
    skipBlanks
    match ← peek? with
    | none => stop .bracketUnclosed opening
    | some '[' =>
      let inner ← match ← readNamed? with
        | some named => pure named
        | none => nested
      readInside nested opening count (brackets.push inner)
    | some ']' =>
      bump
      return brackets.content
    | some c =>
      match SetOperation.ofChar? c, (← get).rest.tail.head? == some c with
      | some operation, true =>
        bump
        bump
        readInside nested opening count (brackets.operate operation (← offset))
      | _, _ =>
        let member ← readMember opening
        readInside nested opening count (brackets.push member)

/-- A set in brackets, nested at most `depth` deep. The place is at the opening bracket. -/
def readBrackets : (depth : Nat) → Scan SetMember
  | 0 => stopAtChar .bracketUnclosed
  | depth + 1 => do
    let start ← offset
    let (negated, brackets) ← readOpening
    let opening : Span := ⟨start, ← offset⟩
    let content ← readInside (readBrackets depth) opening ((← get).rest.length + 1) brackets
    return .brackets ⟨start, ← offset⟩ negated content

end ShaderHandles.Pattern
