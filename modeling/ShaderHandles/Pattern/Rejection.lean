import ShaderHandles.Pattern.Meaning
import ShaderHandles.Pattern.Parser
import ShaderHandles.Pattern.Size

/-!
# Patterns that are accepted

A text becomes a pattern in three steps: its form is read, the form is given a meaning, and the
meaning must have automata that can be made. Each step can reject it.

* `Rejection.lines`: the lines that show why a text is rejected.
* `Pattern.parse`: the pattern of a text, or the rejection.
-/

namespace ShaderHandles

namespace Pattern

/-- Why a text is not accepted as a pattern. -/
inductive Rejection where
  | faulty (fault : Fault)
  /-- It asks about words that are made of more than ASCII characters. -/
  | wordsOfAllScripts
  | tooLarge
  deriving DecidableEq

/-- The lines that show why a text is rejected. -/
def Rejection.lines (rejection : Rejection) (text : List Char) : List String :=
  match rejection with
  | faulty fault => fault.lines text
  | wordsOfAllScripts => ["error building NFA"]
  | tooLarge => ["Compiled regex exceeds size limit of " ++ toString greatestSize ++ " bytes."]

/-- Whether a pattern asks about words that are made of more than ASCII characters. -/
def asksForAllScripts : Pattern → Bool
  | anchor (.word _ ofAllScripts) => ofAllScripts
  | concat first second | either first second =>
    first.asksForAllScripts || second.asksForAllScripts
  | repeated body _ _ _ | group _ body => body.asksForAllScripts
  | _ => false

/-- Why the automata of a pattern cannot be made. -/
def rejection? (pattern : Pattern) : Option Rejection :=
  if greatestSize < pattern.forwardSize then some .tooLarge
  else if pattern.asksForAllScripts then some .wordsOfAllScripts
  else if greatestSize < pattern.backwardSize then some .tooLarge
  else none

/-- What a written pattern means from the start of a text on. -/
def ofWritten (written : Written) : Except Fault Pattern := (written.meaning.run {}).map (·.1)

def parse (text : List Char) : Except Rejection Pattern := do
  let written ← (Written.parse text).mapError .faulty
  let pattern ← (ofWritten written).mapError .faulty
  match pattern.rejection? with
  | some rejection => throw rejection
  | none => return pattern

end Pattern

end ShaderHandles
