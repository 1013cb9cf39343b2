import ShaderHandles.Pattern.ByteRange
import ShaderHandles.Pattern.Compose

/-!
# The size of an automaton

A pattern is tried by two automata on bytes, one that goes forward from a beginning and one that
goes back from an end. Their sizes are counted here and not the automata built: every state has a
size, and so has every way out of it. Where a part ends in a choice, what follows is one more way out
of it.

* `Pattern.size`: the size of the automaton of a part.
* `Pattern.forwardSize`, `Pattern.backwardSize`: the sizes of the automata of a whole pattern.
-/

namespace ShaderHandles.Pattern

/-- The way an automaton goes through a text. -/
inductive Direction where
  | forward
  | backward

/-! ## Measures -/

/-- The size of a state. -/
def stateSize : Nat := 32

/-- The size of a way out of a choice. -/
def wayOutSize : Nat := 4

/-- The size of a way out for some bytes. -/
def byteWaySize : Nat := 8

/-- The greatest size that is allowed. -/
def greatestSize : Nat := 10485760

/-- A state with ways out for some bytes. -/
def byteState (ways : Nat) : Nat := stateSize + byteWaySize * ways

/-! ## Sets -/

/-- The size of the automaton of a set. Going forward, what follows the same bytes in the same way
is shared; going back, what comes before is. -/
def setSize (direction : Direction) (set : CharSet) : Nat :=
  if set.isAscii then stateSize + byteState set.ranges.length
  else
    let sequences := set.byteSequences
    match direction with
    | .forward =>
      let rests := ((ByteSequence.starts sequences).map (·.after sequences)).eraseDups
      rests.foldl
        (fun size rest => size + byteState (rest.filterMap List.head?).eraseDups.length) stateSize
    | .backward =>
      let ends := (sequences.flatMap fun sequence =>
        (List.range sequence.length).map fun n => sequence.take (n + 1)).eraseDups
      2 * stateSize + stateSize * ends.length + wayOutSize * sequences.length

/-! ## Words -/

/-- The words that begin with a byte, without it. -/
def wordsAfter (byte : UInt8) (words : List (List UInt8)) : List (List UInt8) :=
  words.filterMap fun word => if word.head? = some byte then some word.tail else none

/-- The words between those that have come to their end. -/
def stretches (words : List (List UInt8)) : List (List (List UInt8)) :=
  words.foldr (fun word stretches =>
    match word, stretches with
    | [], stretches => [] :: stretches
    | word, [] => [[word]]
    | word, stretch :: stretches => (word :: stretch) :: stretches) [[]]

/-- The size of a tree of words below a state. Words that begin alike share states, but not beyond
a word that has come to its end before them. No word is longer than `depth`. -/
def treeSize : (depth : Nat) → List (List UInt8) → Nat
  | 0, _ => 0
  | depth + 1, words =>
    let started := words.dropWhile List.isEmpty
    if started.isEmpty then 0
    else
      let ended := (if words.head?.any List.isEmpty then 1 else 0) +
        (started.filter List.isEmpty).length
      let groups := (stretches started).filter (!·.isEmpty)
      groups.foldl (fun size stretch =>
          let heads := (stretch.filterMap List.head?).eraseDups
          let state := if heads.length = 1 then stateSize else byteState heads.length
          heads.foldl (fun size byte => size + treeSize depth (wordsAfter byte stretch))
            (size + state))
        (stateSize + wayOutSize * (groups.length + ended))

/-- The size of the automaton of words as alternatives. -/
def wordsSize (direction : Direction) (words : List (List Char)) : Nat :=
  let words := words.map fun word =>
    let bytes := word.flatMap String.utf8EncodeChar
    match direction with
    | .forward => bytes
    | .backward => bytes.reverse
  let longest := (words.map List.length).foldl max 0
  stateSize + treeSize (longest + 1) words

/-- The words of a pattern whose alternatives are all texts. -/
def words? : Pattern → Option (List (List Char))
  | text word => some [word]
  | either first second => do return (← first.words?) ++ (← second.words?)
  | _ => none

/-! ## Parts -/

/-- Whether the automaton of a part ends in a choice. -/
def endsInChoice (direction : Direction) : Pattern → Bool
  | concat first second =>
    match direction with
    | .forward => second.endsInChoice direction
    | .backward => first.endsInChoice direction
  | repeated body least none _ => 0 < least || body.fewest?.any (0 < ·)
  | repeated body least (some most) _ => least = most && body.endsInChoice direction
  | group _ body =>
    match direction with
    | .forward => false
    | .backward => body.endsInChoice direction
  | _ => false

/-- The size that a part grows by when something follows it. -/
def linkSize (direction : Direction) (pattern : Pattern) : Nat :=
  if pattern.endsInChoice direction then wayOutSize else 0

/-- The size of a repetition, given the size of what is repeated and of its link. -/
def repeatedSize (body link : Nat) (mayBeEmpty : Bool) (least : Nat) : (most : Option Nat) → Nat
  | none =>
    if least = 0 then
      if mayBeEmpty then body + link + 3 * stateSize + 4 * wayOutSize
      else body + link + stateSize + wayOutSize
    else least * (body + link) + stateSize + wayOutSize
  | some most =>
    let exactly := least * body + (least - 1) * link
    if least = 0 ∧ most = 1 then body + link + 2 * stateSize + 2 * wayOutSize
    else if least = most then exactly
    else
      let before := if least = 0 then stateSize else exactly + link
      before + stateSize + (most - least) * (body + link + stateSize + 2 * wayOutSize)

/-- The size that a part takes as one of several alternatives, or on its own. -/
def placedSize (isBranch : Bool) (own link : Nat) : Nat :=
  if isBranch then own + wayOutSize + link else own

/-- The size of the automaton of a part. As one of several alternatives it also takes a way in and a
way on. -/
def size (direction : Direction) : Pattern → (isBranch : Bool) → Nat
  | empty, isBranch => placedSize isBranch stateSize 0
  | text word, isBranch =>
    placedSize isBranch (stateSize * (word.flatMap String.utf8EncodeChar).length) 0
  | chars set, isBranch => placedSize isBranch (setSize direction set) 0
  | anchor _, isBranch => placedSize isBranch stateSize 0
  | concat first second, isBranch =>
    let link := match direction with
      | .forward => first.linkSize direction
      | .backward => second.linkSize direction
    placedSize isBranch (first.size direction false + link + second.size direction false)
      ((concat first second).linkSize direction)
  | either first second, isBranch =>
    let branches := first.size direction true + second.size direction true
    if isBranch then branches
    else
      match (either first second).words? with
      | some words => wordsSize direction words
      | none => 2 * stateSize + branches
  | repeated body least most eager, isBranch =>
    let mayBeEmpty := !body.fewest?.any (0 < ·)
    placedSize isBranch
      (repeatedSize (body.size direction false) (body.linkSize direction) mayBeEmpty least most)
      ((repeated body least most eager).linkSize direction)
  | group number body, isBranch =>
    match direction with
    | .forward =>
      placedSize isBranch (2 * stateSize + body.size direction false + body.linkSize direction) 0
    | .backward =>
      placedSize isBranch (body.size direction false) ((group number body).linkSize direction)

/-! ## Whole patterns -/

/-- Whether a pattern makes a demand on the first place that it is tried at. -/
def demandsFirst (demand : Anchor) (direction : Direction) : Pattern → Bool
  | anchor own => own = demand
  | concat first second =>
    match direction with
    | .forward =>
      first.demandsFirst demand direction ||
        (first.greatest? = some 0 && second.demandsFirst demand direction)
    | .backward =>
      second.demandsFirst demand direction ||
        (second.greatest? = some 0 && first.demandsFirst demand direction)
  | either first second =>
    first.demandsFirst demand direction && second.demandsFirst demand direction
  | repeated body least _ _ => 0 < least && body.demandsFirst demand direction
  | group _ body => body.demandsFirst demand direction
  | _ => false

/-- The size of what leads to a pattern: nothing but a state if it is tried at one end of a text
only, otherwise a loop over all bytes. -/
def leadSize (atOneEnd : Bool) : Nat :=
  if atOneEnd then stateSize else 2 * stateSize + byteState 1 + 2 * wayOutSize

/-- The size of the automaton that goes forward. It notes where the pattern begins and ends. -/
def forwardSize (pattern : Pattern) : Nat :=
  leadSize (pattern.demandsFirst .textStart .forward) + 3 * stateSize +
    pattern.size .forward false + pattern.linkSize .forward

/-- The size of the automaton that goes back. -/
def backwardSize (pattern : Pattern) : Nat :=
  leadSize (pattern.demandsFirst .textEnd .backward) + stateSize +
    pattern.size .backward false + pattern.linkSize .backward

end ShaderHandles.Pattern
