import ShaderHandles.Pattern.Basic
import ShaderHandles.Pattern.Fault

/-!
# Patterns as they are written

The form of a pattern before flags and sets are understood. Every part keeps its place in the text,
so that a fault of meaning can be shown there.

* `Written`: a pattern as it is written; `SetContent` is what stands in brackets.
* `Written.tooNested?`: the part at which groups, repetitions, brackets and sequences are nested too
  deep.
-/

namespace ShaderHandles.Pattern

/-! ## Signs -/

/-- What can be switched on and off inside a pattern. -/
inductive Flag where
  | ignoreCase
  /-- Lines begin and end inside the text. -/
  | byLine
  /-- A dot stands for the end of a line too. -/
  | dotForAll
  /-- Lines may also end with a carriage return. -/
  | withReturns
  /-- Repetitions are eager when they are written as the others, and the reverse. -/
  | swapEagerness
  /-- All characters count, not only those of ASCII. -/
  | allScripts
  /-- Blanks and comments in the pattern count for nothing. -/
  | ignoreBlanks
  deriving DecidableEq

/-- Flags and the values that they get. -/
abbrev FlagChanges := List (Flag × Bool)

/-- A character that stands for itself. -/
structure Literal where
  span : Span
  character : Char
  /-- Whether it is written by two hexadecimal digits, as one byte. -/
  isByte : Bool

/-- A set that is not written in brackets of its own. -/
inductive SetSign where
  /-- A letter after a backslash. -/
  | shorthand (ranges : List CodeRange) (negated : Bool)
  /-- A name between colons. -/
  | named (ranges : List CodeRange) (negated : Bool)
  /-- The name of a property. -/
  | property (name : List Char)

/-- A demand on a place; what it means depends on flags. -/
inductive AnchorSign where
  | textStart
  | textEnd
  | caret
  | dollar
  | word (edge : WordEdge)

/-! ## Sets -/

inductive SetOperation where
  | intersection
  | difference
  | symmetricDifference

mutual

/-- A set, or a member of what stands in brackets. -/
inductive SetMember where
  | literal (character : Literal)
  | range (first last : Literal)
  | sign (span : Span) (sign : SetSign)
  | brackets (span : Span) (negated : Bool) (content : SetContent)

/-- What stands in brackets: members, or an operation between such. -/
inductive SetContent where
  | members (span : Span) (members : List SetMember)
  | operation (operation : SetOperation) (left right : SetContent)

end

def SetMember.span : SetMember → Span
  | .literal c => c.span
  | .range first last => ⟨first.span.start, last.span.stop⟩
  | .sign span _ => span
  | .brackets span _ _ => span

/-- Members in brackets; without any, they stand at a place between others. -/
def SetContent.ofMembers (place : Nat) (list : List SetMember) : SetContent :=
  match list.head?, list.getLast? with
  | some first, some last => members ⟨first.span.start, last.span.stop⟩ list
  | _, _ => members ⟨place, place⟩ list

/-- The place of what stands in brackets. -/
def SetContent.span : SetContent → Span
  | members span _ => span
  | operation _ left right => ⟨left.span.start, right.span.stop⟩

/-! ## Patterns -/

/-- Which parentheses make a group. -/
inductive GroupKind where
  | numbered (number : Nat)
  | flagged (changes : FlagChanges)

/-- How often a part is repeated. -/
structure Count where
  least : Nat
  most : Option Nat
  eager : Bool := true

/-- A pattern as it is written. -/
inductive Written where
  | empty
  | flags (changes : FlagChanges)
  | literal (character : Literal)
  | dot (span : Span)
  | anchor (sign : AnchorSign)
  | set (set : SetMember)
  | repeated (span : Span) (body : Written) (count : Count)
  | group (span : Span) (kind : GroupKind) (body : Written)
  | concat (span : Span) (parts : List Written)
  | either (span : Span) (branches : List Written)

/-- Parts one after the other. -/
def Written.ofParts (span : Span) : List Written → Written
  | [] => empty
  | [part] => part
  | parts => concat span parts

/-! ## Nesting -/

/-- The greatest number of parts inside of each other. -/
def greatestNesting : Nat := 250

/-- Goes into a part, if there is room for one more. -/
def enter (span : Span) (room : Nat) (inside : Nat → Option Span) : Option Span :=
  match room with
  | 0 => some span
  | room + 1 => inside room

mutual

/-- The first part of a member for which there is no room. -/
def SetMember.tooNested? : SetMember → (room : Nat) → Option Span
  | .brackets span _ content, room => enter span room content.tooNested?
  | _, _ => none

/-- The first part in brackets for which there is no room. Several members are a part too. -/
def SetContent.tooNested? : SetContent → (room : Nat) → Option Span
  | .members span members, room =>
    if members.length ≤ 1 then anyTooNested? members room
    else enter span room (anyTooNested? members)
  | .operation operation left right, room =>
    enter (SetContent.operation operation left right).span room fun room =>
      (left.tooNested? room).or (right.tooNested? room)

/-- The first part of some members for which there is no room. -/
def anyTooNested? : List SetMember → (room : Nat) → Option Span
  | [], _ => none
  | member :: rest, room => (member.tooNested? room).or (anyTooNested? rest room)

end

mutual

/-- The first part of a pattern for which there is no room. -/
def Written.tooNested? : Written → (room : Nat) → Option Span
  | .set set, room => set.tooNested? room
  | .repeated span body _, room => enter span room body.tooNested?
  | .group span _ body, room => enter span room body.tooNested?
  | .concat span parts, room => enter span room (firstTooNested? parts)
  | .either span branches, room => enter span room (firstTooNested? branches)
  | _, _ => none

/-- The first part of some patterns for which there is no room. -/
def firstTooNested? : List Written → (room : Nat) → Option Span
  | [], _ => none
  | part :: rest, room => (part.tooNested? room).or (firstTooNested? rest room)

end

end ShaderHandles.Pattern
