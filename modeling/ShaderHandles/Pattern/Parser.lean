import ShaderHandles.Pattern.Bracket
import ShaderHandles.Text.Letter

/-!
# Reading a pattern

Parts of a pattern stand one after the other, bars divide alternatives, and parentheses make groups
or set flags for what follows.

* `OpenGroup`: what has been read of a group.
* `Written.parse`: the written form of a text, or the fault.
-/

namespace ShaderHandles.Pattern

open Scan

/-! ## Repetition -/

/-- The greatest number that a repetition can ask for. -/
def greatestCount : Nat := 0xffffffff

/-- A number in decimal digits, or the fault that it is, which may count for nothing. -/
def readCount : Scan (Except Fault Nat) := do
  let blanks := (← get).rest.takeWhile Text.isBlank
  modify fun cursor => { cursor with rest := cursor.rest.drop blanks.length }
  let start ← offset
  let digits ← takeAll Char.isDigit
  let span : Span := ⟨start, ← offset⟩
  let _ ← takeAll Text.isBlank
  if digits.isEmpty then return .error { cause := .countMissing, span }
  let number := digits.foldl (fun number c => number * 10 + (c.toNat - 48)) 0
  if greatestCount < number then return .error { cause := .numberTooGreat, span }
  return .ok number

/-- The counts in braces, up to the closing brace. -/
def readCounts (start : Nat) : Scan Count := do
  let unclosed {α : Type} : Scan α := stopSince .countUnclosed start
  let first ← readCount
  match ← peek? with
  | none => unclosed
  | some ',' =>
    advance
    match ← peek? with
    | none => unclosed
    | some '\x7d' => return { least := ← first, most := none }
    | some _ =>
      match first, ← readCount with
      | .ok least, .ok most => return { least, most := some most }
      | .error fault, _ => throw fault
      | .ok _, .error fault => throw fault
  | some _ =>
    let count ← first
    return { least := count, most := some count }

/-- Whether a repetition is eager. A question mark after it makes it the reverse. -/
def readEager : Scan Bool := do
  if (← peek?) == some '?' then
    bump
    return false
  else return true

/-- A repetition in braces. The place is at the opening brace. -/
def readBraces : Scan Count := do
  let start ← offset
  advance
  if (← peek?).isNone then stopSince .countUnclosed start
  let count ← readCounts start
  if (← peek?) != some '\x7d' then stopSince .countUnclosed start
  advance
  let eager ← readEager
  if count.most.any (· < count.least) then stopSince .countBackwards start
  return { count with eager }

/-- The repetition that a character stands for. -/
def countOf? : Char → Option Count
  | '?' => some { least := 0, most := some 1 }
  | '*' => some { least := 0, most := none }
  | '+' => some { least := 1, most := none }
  | _ => none

/-! ## Groups -/

def flagLetters : List (Char × Flag) :=
  [('i', .ignoreCase), ('m', .byLine), ('s', .dotForAll), ('U', .swapEagerness),
    ('u', .allScripts), ('R', .withReturns), ('x', .ignoreBlanks)]

/-- A fault at the character of the place, which was given before. -/
def stopRepeated {α : Type} (cause : Cause) (earlier : Span) : Scan α := do
  let start ← offset
  throw { cause, span := ⟨start, start + 1⟩, earlier := some earlier }

/-- The flags of a group, up to a colon or a closing parenthesis, and whether there is anything. A
hyphen takes back the flags after it, and must not be the last. -/
def readFlags : (count : Nat) → (given : List (Char × Nat)) → FlagChanges →
    Scan (FlagChanges × Bool)
  | 0, _, changes => return (changes, false)
  | count + 1, given, changes => do
    match ← peek? with
    | none => stopHere .flagMissing
    | some c =>
      let place ← offset
      if c == ':' || c == ')' then
        match given with
        | ('-', last) :: _ => stop .negationDangling ⟨last, last + 1⟩
        | _ => return (changes, !given.isEmpty)
      else
        let changes ← match c == '-', flagLetters.lookup c with
          | true, _ => pure changes
          | false, some flag => pure (changes ++ [(flag, (given.lookup '-').isNone)])
          | false, none => stopAtChar .flagUnknown
        if let some earlier := given.lookup c then
          stopRepeated (if c == '-' then .negationRepeated else .flagRepeated)
            ⟨earlier, earlier + 1⟩
        bump
        readFlags count ((c, place) :: given) changes

def isNameChar (isFirst : Bool) (c : Char) : Bool :=
  c == '_' || Text.isLetter c ||
    (!isFirst && (c == '.' || c == '[' || c == ']' || Text.isNumeral c))

/-- The characters of a name up to its closing bracket. -/
def readNameChars : (count : Nat) → (isFirst : Bool) → Scan (List Char)
  | 0, _ => return []
  | count + 1, isFirst => do
    match ← peek? with
    | none => stopHere .nameUnclosed
    | some '>' => return []
    | some c =>
      if !isNameChar isFirst c then stopAtChar .nameCharacter
      bump
      return c :: (← readNameChars count false)

/-- The name of a group and its closing bracket. -/
def readName : Scan Unit := do
  let start ← offset
  let name ← readNameChars ((← get).rest.length + 1) true
  let span : Span := ⟨start, ← offset⟩
  bump
  if name.isEmpty then stop .nameEmpty ⟨start, start⟩
  if let some earlier := (← get).names.lookup name then
    throw { cause := .nameRepeated, span, earlier := some earlier }
  modify fun cursor => { cursor with names := (name, span) :: cursor.names }

def nextGroup : Scan GroupKind := do
  let cursor ← get
  set { cursor with groups := cursor.groups + 1 }
  return .numbered cursor.groups

/-- What flags do to the rest of the scan. -/
def applyChanges (changes : FlagChanges) : Scan Unit :=
  modify fun cursor =>
    { cursor with ignoreBlanks := (changes.lookup .ignoreBlanks).getD cursor.ignoreBlanks }

/-- What an opening parenthesis begins. -/
inductive Opening where
  | group (kind : GroupKind)
  /-- Flags for what follows, already closed. -/
  | flags (changes : FlagChanges)

/-- The start of a group after its parenthesis. -/
def readParenthesis (parenthesis : Span) : Scan Opening := do
  skipBlanks
  for sign in ["?=", "?!", "?<=", "?<!"] do
    if ← accept sign then stopSince .lookAround parenthesis.start
  let inner ← offset
  if ← accept "?P<" then
    let kind ← nextGroup
    readName
    return .group kind
  else if ← accept "?<" then
    let kind ← nextGroup
    readName
    return .group kind
  else if ← accept "?" then
    if (← peek?).isNone then stop .groupUnclosed parenthesis
    let (changes, anyGiven) ← readFlags ((← get).rest.length + 1) [] []
    let isGroup := (← peek?) == some ':'
    bump
    if !isGroup && !anyGiven then stop .nothingToRepeat ⟨inner, inner⟩
    applyChanges changes
    return if isGroup then .group (.flagged changes) else .flags changes
  else return .group (← nextGroup)

/-- What has been read of a group: the finished alternatives, and the parts of the last one with the
places where they begin, each list with its last element first. -/
structure OpenGroup where
  /-- Where the group begins. -/
  start : Nat
  branches : List Written := []
  /-- Where the last alternative begins. -/
  branchStart : Nat
  parts : List (Nat × Written) := []

namespace OpenGroup

/-- A group of which nothing has been read. -/
def new (start : Nat) : OpenGroup := { start, branchStart := start }

def push (group : OpenGroup) (start : Nat) (part : Written) : OpenGroup :=
  { group with parts := (start, part) :: group.parts }

/-- The last part and where it begins, and the group without it. Nothing can be repeated at the
start of an alternative and after flags. -/
def pop? (group : OpenGroup) : Option (Nat × Written × OpenGroup) :=
  match group.parts with
  | [] | (_, .flags _) :: _ => none
  | (start, part) :: parts => some (start, part, { group with parts })

/-- The last alternative, which ends at a place. -/
def lastBranch (group : OpenGroup) (place : Nat) : Written :=
  .ofParts ⟨group.branchStart, place⟩ (group.parts.reverse.map (·.2))

/-- A bar at a place. -/
def divide (group : OpenGroup) (place : Nat) : OpenGroup :=
  { group with
    branches := group.lastBranch place :: group.branches
    branchStart := place + 1
    parts := [] }

/-- All that has been read, up to a place. -/
def close (group : OpenGroup) (place : Nat) : Written :=
  match group.branches with
  | [] => group.lastBranch place
  | branches => .either ⟨group.start, place⟩ (branches.reverse ++ [group.lastBranch place])

end OpenGroup

/-! ## Sequences and alternatives -/

/-- A part that is one character, a dot, a demand on a place or an escape. -/
def readPrimitive (c : Char) : Scan Written := do
  let start ← offset
  match c with
  | '\\' =>
    match ← readEscape with
    | .literal character => return .literal character
    | .sign sign => return .set (.sign ⟨start, ← offset⟩ sign)
    | .anchor sign => return .anchor sign
  | '.' =>
    bump
    return .dot ⟨start, start + 1⟩
  | '^' =>
    bump
    return .anchor .caret
  | '$' =>
    bump
    return .anchor .dollar
  | character =>
    bump
    return .literal { span := ⟨start, start + 1⟩, character, isByte := false }

/-- A repetition of the last part of a group; `count` reads how often. -/
def readRepeated (group : OpenGroup) (count : Scan Count) : Scan OpenGroup := do
  match group.pop? with
  | none => stopHere .nothingToRepeat
  | some (start, part, before) =>
    let count ← count
    return before.push start (.repeated ⟨start, ← offset⟩ part count)

/-- The rest of a group, up to a closing parenthesis or to the end. -/
def readGroup : (budget : Nat) → OpenGroup → Scan Written
  | 0, read => return read.close (← offset)
  | budget + 1, read => do
    skipBlanks
    let start ← offset
    match ← peek? with
    | none => return read.close start
    | some ')' => return read.close start
    | some '|' =>
      bump
      readGroup budget (read.divide start)
    | some '(' =>
      let parenthesis : Span := ⟨start, start + 1⟩
      let ignoreBlanks := (← get).ignoreBlanks
      bump
      match ← readParenthesis parenthesis with
      | .flags changes => readGroup budget (read.push start (.flags changes))
      | .group kind =>
        let body ← readGroup budget (.new (← offset))
        if (← peek?).isNone then stop .groupUnclosed parenthesis
        modify fun cursor => { cursor with ignoreBlanks }
        bump
        readGroup budget (read.push start (.group ⟨start, ← offset⟩ kind body))
    | some '[' =>
      let set ← readBrackets ((← get).rest.length + 1)
      readGroup budget (read.push start (.set set))
    | some '\x7b' =>
      readGroup budget (← readRepeated read readBraces)
    | some c =>
      match countOf? c with
      | some count =>
        let readSign : Scan Count := do
          bump
          return { count with eager := ← readEager }
        readGroup budget (← readRepeated read readSign)
      | none => readGroup budget (read.push start (← readPrimitive c))

def readAll : Scan Written := do
  let written ← readGroup ((← get).rest.length + 1) (.new 0)
  if (← peek?).isSome then stopAtChar .groupUnopened
  match written.tooNested? greatestNesting with
  | some span => stop .tooNested span
  | none => return written

def Written.parse (text : List Char) : Except Fault Written :=
  (readAll.run { rest := text, size := text.length }).map (·.1)

end ShaderHandles.Pattern
