import ShaderHandles.Pattern.Compose
import ShaderHandles.Pattern.Written

/-!
# The meaning of a written pattern

Flags hold from their place to the end of the group, through all alternatives. While all characters
count, shorthands, properties and letters of either case are not known, and faults. While only ASCII
counts, a set must not reach beyond it, because the rest of a byte's values are no characters.

* `Interpretation`: a step from left to right, with the flags of its place.
* `SetContent.meaning`: the set of what stands in brackets.
* `Written.meaning`: the pattern, or the first fault.
-/

namespace ShaderHandles.Pattern

/-- How the characters of a pattern are understood. -/
structure Flags where
  ignoreCase : Bool := false
  byLine : Bool := false
  dotForAll : Bool := false
  withReturns : Bool := false
  swapEagerness : Bool := false
  allScripts : Bool := true

def Flags.set (flags : Flags) : Flag × Bool → Flags
  | (.ignoreCase, value) => { flags with ignoreCase := value }
  | (.byLine, value) => { flags with byLine := value }
  | (.dotForAll, value) => { flags with dotForAll := value }
  | (.withReturns, value) => { flags with withReturns := value }
  | (.swapEagerness, value) => { flags with swapEagerness := value }
  | (.allScripts, value) => { flags with allScripts := value }
  | (.ignoreBlanks, _) => flags

def Flags.change (flags : Flags) (changes : FlagChanges) : Flags := changes.foldl Flags.set flags

/-- What sets are parts of. -/
def Flags.repertoire (flags : Flags) : Repertoire :=
  if flags.allScripts then .characters else .bytes

/-- A step from left to right through a written pattern. -/
abbrev Interpretation := StateT Flags (Except Fault)

/-- Stops with a fault of meaning. -/
def refuse {α : Type} (cause : Cause) (span : Span) : Interpretation α := throw { cause, span }

/-- Stops if something does not hold. -/
def require (holds : Bool) (cause : Cause) (span : Span) : Interpretation Unit :=
  if holds then pure () else refuse cause span

/-! ## Characters -/

/-- A character that is written as one byte must be an ASCII character while only these count. -/
def Literal.check (literal : Literal) : Interpretation Unit := do
  require ((← get).allScripts || !literal.isByte || literal.character.toNat < 0x80) .beyondAscii
    literal.span

def Literal.meaning (literal : Literal) : Interpretation Pattern := do
  literal.check
  let flags ← get
  let c := literal.character
  if !flags.ignoreCase then return .text [c]
  require (!flags.allScripts) .caseUnknown literal.span
  return if c.isAlpha then ofSet (CharSet.between .bytes c c).ignoringCase else .text [c]

/-- The character of a range or of brackets. -/
def Literal.bound (literal : Literal) : Interpretation Char := do
  literal.check
  require ((← get).allScripts || literal.character.toNat < 0x80) .notInBytes literal.span
  return literal.character

/-- The pattern of a dot: any character that does not end a line. -/
def dotMeaning (span : Span) : Interpretation Pattern := do
  let flags ← get
  require flags.allScripts .beyondAscii span
  let excluded : List CodeRange :=
    if flags.dotForAll then []
    else if flags.withReturns then [⟨0xa, 0xa⟩, ⟨0xd, 0xd⟩]
    else [⟨0xa, 0xa⟩]
  return .chars (CharSet.compl ⟨.characters, excluded⟩)

/-- What a demand on a place means. -/
def AnchorSign.meaning (flags : Flags) : AnchorSign → Anchor
  | textStart => .textStart
  | textEnd => .textEnd
  | caret => if flags.byLine then .lineStart flags.withReturns else .textStart
  | dollar => if flags.byLine then .lineEnd flags.withReturns else .textEnd
  | word edge => .word edge flags.allScripts

/-! ## Sets -/

/-- A set as it is seen outside: without regard to case, or its complement. `listed` says whether
characters are listed in it. -/
def finishSet (span : Span) (negated listed : Bool) (set : CharSet) : Interpretation CharSet := do
  let flags ← get
  if flags.allScripts then
    require (!(flags.ignoreCase && listed)) .caseUnknown span
    return set.complIf negated
  else
    let set := (if flags.ignoreCase then set.ignoringCase else set).complIf negated
    require set.isAscii .beyondAscii span
    return set

/-- The name of a property without the differences that do not matter. -/
def plainName (name : List Char) : List Char :=
  let lowered := name.map Char.toLower
  let stem := if ['i', 's'].isPrefixOf lowered then lowered.drop 2 else lowered
  stem.filter fun c => c.toNat < 0x80 && !(c == ' ' || c == '_' || c == '-')

/-- Why a property is not known. Three names that could be a property or a value are looked up as
values only. -/
def propertyCause (name : List Char) : Cause :=
  if ["cf", "sc", "lc"].contains (String.ofList (plainName name)) &&
      !name.contains ':' && !name.contains '=' then .propertyValueUnknown
  else .propertyUnknown

def SetSign.meaning (span : Span) (sign : SetSign) : Interpretation CharSet := do
  let flags ← get
  match sign with
  | shorthand ranges negated =>
    require (!flags.allScripts) .shorthandUnknown span
    finishSet span negated false ⟨.bytes, ranges⟩
  | named ranges negated => finishSet span negated true ⟨flags.repertoire, ranges⟩
  | property name =>
    refuse (if flags.allScripts then propertyCause name else .notInBytes) span

/-- Whether characters are listed in brackets, apart from operations. -/
def SetContent.isListed : SetContent → Bool
  | .members _ list => list.any fun
    | .literal _ | .range .. => true
    | .sign .. | .brackets .. => false
  | .operation .. => false

def SetOperation.apply : SetOperation → CharSet → CharSet → CharSet
  | intersection => .inter
  | difference => .diff
  | symmetricDifference => .symmDiff

def finishSide (content : SetContent) (set : CharSet) : Interpretation CharSet := do
  let flags ← get
  require (!(flags.allScripts && flags.ignoreCase && content.isListed)) .caseUnknown content.span
  return if flags.ignoreCase then set.ignoringCase else set

mutual

/-- The set of a member. -/
def SetMember.meaning : SetMember → Interpretation CharSet
  | .literal character => do
    let c ← character.bound
    return .between (← get).repertoire c c
  | .range first last => do
    let low ← first.bound
    let high ← last.bound
    return .between (← get).repertoire low high
  | .sign span sign => sign.meaning span
  | .brackets span negated content => do
    finishSet span negated content.isListed (← content.meaning)

/-- The set of what stands in brackets. -/
def SetContent.meaning : SetContent → Interpretation CharSet
  | .members _ members => unionMeaning members
  | .operation operation left right => do
    let first ← left.meaning
    let second ← right.meaning
    let second ← finishSide right second
    let first ← finishSide left first
    return operation.apply first second

def unionMeaning : List SetMember → Interpretation CharSet
  | [] => return .nothing (← get).repertoire
  | member :: rest => do
    let first ← member.meaning
    return first.union (← unionMeaning rest)

end

/-! ## Patterns -/

mutual

/-- The pattern of a written pattern. -/
def Written.meaning : Written → Interpretation Pattern
  | .empty => return .empty
  | .flags changes => do
    modify (·.change changes)
    return .empty
  | .literal character => character.meaning
  | .dot span => dotMeaning span
  | .anchor sign => return .anchor (sign.meaning (← get))
  | .set set => return ofSet (← set.meaning)
  | .repeated _ body count => do
    let body ← body.meaning
    return body.times count.least count.most (count.eager != (← get).swapEagerness)
  | .group _ kind body => do
    let outer ← get
    match kind with
    | .numbered number =>
      let body ← body.meaning
      set outer
      return .group number body
    | .flagged changes =>
      set (outer.change changes)
      let body ← body.meaning
      set outer
      return body
  | .concat _ parts => return join (← meanings parts)
  | .either _ branches => return choice (← meanings branches)

/-- The patterns of some written patterns, from left to right. -/
def meanings : List Written → Interpretation (List Pattern)
  | [] => return []
  | written :: rest => do
    let first ← written.meaning
    return first :: (← meanings rest)

end

end ShaderHandles.Pattern
