import ShaderHandles.Pattern.CharSet

/-!
# Patterns

A pattern describes texts by the characters that stand one after the other, by alternatives and by
repetition, and it can ask for something about the place between two characters. A pattern is tried
on all places of a text at once: from the places where it may begin it leads to the places where it
may end.

* `Pattern.reach`: the places that a pattern leads to.
* `Pattern.occursIn`: whether some part of a text is as the pattern says.
* `Pattern.fewest?`, `Pattern.greatest?`: how many characters a pattern takes.
-/

namespace ShaderHandles

/-! ## Places -/

/-- A demand on the place between two characters, with regard to words. -/
inductive WordEdge where
  | boundary
  | noBoundary
  | start
  | stop
  /-- No character of a word comes before. -/
  | startHalf
  /-- No character of a word comes after. -/
  | stopHalf
  deriving DecidableEq

/-- Whether a place between two characters, given whether they belong to a word, meets the
demand. -/
def WordEdge.holds : WordEdge → (before after : Bool) → Bool
  | boundary, before, after => before != after
  | noBoundary, before, after => before == after
  | start, before, after => !before && after
  | stop, before, after => before && !after
  | startHalf, before, _ => !before
  | stopHalf, _, after => !after

/-- A demand on a place between two characters. -/
inductive Anchor where
  | textStart
  | textEnd
  /-- The start of a line; lines may also end with a carriage return. -/
  | lineStart (withReturns : Bool)
  | lineEnd (withReturns : Bool)
  /-- Words are made of ASCII characters. With `ofAllScripts` they would be made of others too, but
  such a demand is never tried on a text: `Pattern.parse` refuses it. -/
  | word (edge : WordEdge) (ofAllScripts : Bool)
  deriving DecidableEq

namespace Anchor

def isInWord (c : Option Char) : Bool := c.any fun c => CodeRange.covers CodeRange.word c.toNat

/-- Whether a place between two characters, either of which may be missing, meets the demand. -/
def holds : Anchor → (before after : Option Char) → Bool
  | textStart, before, _ => before.isNone
  | textEnd, _, after => after.isNone
  | lineStart withReturns, before, after =>
    before.isNone || before == some '\n' ||
      (withReturns && before == some '\r' && after != some '\n')
  | lineEnd withReturns, before, after =>
    after.isNone || (after == some '\n' && !(withReturns && before == some '\r')) ||
      (withReturns && after == some '\r')
  | word edge _, before, after => edge.holds (isInWord before) (isInWord after)

end Anchor

/-! ## Patterns -/

inductive Pattern where
  | empty
  /-- Some characters, one after the other. -/
  | text (characters : List Char)
  | chars (set : CharSet)
  | anchor (anchor : Anchor)
  | concat (first second : Pattern)
  | either (first second : Pattern)
  /-- At least and at most so many times, or without an upper limit. An eager repetition prefers
  more of them, which makes no difference to whether a pattern occurs. -/
  | repeated (body : Pattern) (least : Nat) (most : Option Nat) (eager : Bool)
  /-- A group with a number of its own. -/
  | group (number : Nat) (body : Pattern)
  deriving DecidableEq

namespace Pattern

/-- The pattern that occurs nowhere. -/
def never : Pattern := chars (.nothing .bytes)

def before? (subject : Array Char) : Nat → Option Char
  | 0 => none
  | place + 1 => subject[place]?

/-- The places after a character of a kind. -/
def stepOver (subject : Array Char) (p : Char → Bool) (places : List Nat) : List Nat :=
  (places.filter fun place => (subject[place]?).any p).map (· + 1)

/-- Exactly `count` steps from a set of places. -/
def steps (step : List Nat → List Nat) : (count : Nat) → List Nat → List Nat
  | 0, places => places
  | count + 1, places => steps step count (step places)

/-- At most `count` steps from a set of places. A step that leads to no new place is the last. -/
def closure (step : List Nat → List Nat) : (count : Nat) → List Nat → List Nat
  | 0, places => places
  | count + 1, places =>
    let new := (step places).filter fun place => !places.contains place
    if new.isEmpty then places else closure step count (places ++ new.eraseDups)

/-- The places that a pattern leads to. More repetitions than the text has places lead nowhere else:
some of them lead from a place to itself, and one more or less of these makes no difference. -/
def reach (subject : Array Char) : Pattern → List Nat → List Nat
  | empty, places => places
  | text characters, places =>
    characters.foldl (fun places c => stepOver subject (· == c) places) places
  | chars set, places => stepOver subject set.mem places
  | anchor demand, places =>
    places.filter fun place => demand.holds (before? subject place) subject[place]?
  | concat first second, places => second.reach subject (first.reach subject places)
  | either first second, places =>
    (first.reach subject places ++ second.reach subject places).eraseDups
  | repeated body least most _, places =>
    let enough := subject.size + 1
    closure (body.reach subject) (min (most.getD (least + enough) - least) enough)
      (steps (body.reach subject) (min least enough) places)
  | group _ body, places => body.reach subject places

/-- Whether some part of a text is as the pattern says. -/
def occursIn (pattern : Pattern) (subject : String) : Bool :=
  let subject := subject.toList.toArray
  !(pattern.reach subject (List.range (subject.size + 1))).isEmpty

/-! ## Lengths -/

/-- The least number of characters that a pattern takes. There is none if a set in it is empty. -/
def fewest? : Pattern → Option Nat
  | empty => some 0
  | text characters => some characters.length
  | chars set => if set.ranges.isEmpty then none else some 1
  | anchor _ => some 0
  | concat first second => do return (← first.fewest?) + (← second.fewest?)
  | either first second => do return min (← first.fewest?) (← second.fewest?)
  | repeated body least _ _ => do return least * (← body.fewest?)
  | group _ body => body.fewest?

/-- The greatest number of characters that a pattern takes. There is none if nothing limits it, or
if a set in it is empty. -/
def greatest? : Pattern → Option Nat
  | empty => some 0
  | text characters => some characters.length
  | chars set => if set.ranges.isEmpty then none else some 1
  | anchor _ => some 0
  | concat first second => do return (← first.greatest?) + (← second.greatest?)
  | either first second => do return max (← first.greatest?) (← second.greatest?)
  | repeated body _ most _ => do return (← most) * (← body.greatest?)
  | group _ body => body.greatest?

end Pattern

end ShaderHandles
