import ShaderHandles.Log
import ShaderHandles.Pattern.Rejection

/-!
# Which entries of the log are shown

A filter is written as directives between commas: a level for everything, an origin whose entries
are all shown, or an origin and a level with an equals sign between them. After a slash comes a
pattern that occurs in the shown messages. The longest matching origin decides.

* `Filter.parse`: the filter of a text, and a warning for every part that is not understood.
* `Filter.shows`: whether an entry is shown.
* `Entry.line`: how it is shown.
-/

namespace ShaderHandles

/-- The entries of all origins, or of those that begin with a text, down to a verbosity. -/
structure Directive where
  origin : Option String
  verbosity : Nat

namespace Directive

/-- The text that origins must begin with. -/
def stem (directive : Directive) : String := directive.origin.getD ""

def concerns (directive : Directive) (origin : String) : Bool :=
  directive.stem.toList.isPrefixOf origin.toList

end Directive

/-- Directives, and a pattern that must occur in messages. -/
structure Filter where
  directives : List Directive := []
  pattern : Pattern := .empty

namespace Filter

/-- The verbosity that shows everything. -/
def allLevels : Nat := Level.trace.verbosity

/-- The verbosity of a level's name in upper or lower case. -/
def verbosity? (word : String) : Option Nat :=
  let word := word.map Char.toUpper
  if word = "OFF" then some 0
  else
    ([.error, .warn, .info, .debug, .trace] : List Level).find? (·.name == word)
      |>.map Level.verbosity

/-- The parts of a text between occurrences of a character. -/
def splitAt (separator : Char) : List Char → List (List Char)
  | [] => [[]]
  | c :: rest =>
    if c == separator then [] :: splitAt separator rest
    else
      match splitAt separator rest with
      | [] => [[c]]
      | part :: parts => (c :: part) :: parts

/-- The warning about something that is wrong. -/
def warning (complaint : String) : String := "warning: " ++ complaint ++ ", ignoring it"

def partWarning (part : String) : String := warning ("invalid logging spec '" ++ part ++ "'")

def parseDirective (text : List Char) : Except String Directive :=
  match (splitAt '=' text).map String.ofList with
  | [word] =>
    match verbosity? word with
    | some verbosity => .ok ⟨none, verbosity⟩
    | none => .ok ⟨some word, allLevels⟩
  | [origin, level] =>
    let level := String.ofList (Text.trim level.toList)
    if level.isEmpty then .ok ⟨some origin, allLevels⟩
    else
      match verbosity? level with
      | some verbosity => .ok ⟨some origin, verbosity⟩
      | none => .error (partWarning level)
  | _ => .error (partWarning (String.ofList text))

/-- The directives with one more, which takes the place of an earlier one for the same origin. -/
def addDirective (directives : List Directive) (directive : Directive) : List Directive :=
  if directives.any (·.origin == directive.origin) then
    directives.map fun old => if old.origin == directive.origin then directive else old
  else directives ++ [directive]

/-- The directives of a list, which by default show errors. -/
def directivesOf (directives : List Directive) : List Directive :=
  if directives.isEmpty then [⟨none, Level.error.verbosity⟩] else directives

/-- The pattern of a text. What is no pattern lets every message pass. -/
def parsePattern (text : List Char) : Pattern × List String :=
  match Pattern.parse text with
  | .ok pattern => (pattern, [])
  | .error rejection =>
    let shown := "\n".intercalate (rejection.lines text)
    (.empty, [warning ("invalid regex filter - " ++ shown)])

/-- The filter of a text, and the warnings about what is not understood. -/
def parse (text : String) : Filter × List String :=
  match splitAt '/' text.toList with
  | directives :: more =>
    if 1 < more.length then
      ({ directives := directivesOf [] },
        [warning ("invalid logging spec '" ++ text ++ "' (too many '/'s)")])
    else
      let parts := ((splitAt ',' directives).map Text.trim).filter (!·.isEmpty)
      let results := parts.map parseDirective
      let accepted := results.filterMap fun result => result.toOption
      let warnings := results.filterMap fun result =>
        match result with
        | .ok _ => none
        | .error warning => some warning
      let (pattern, patternWarnings) := parsePattern (more.headD [])
      ({ directives := directivesOf (accepted.foldl addDirective []), pattern },
        warnings ++ patternWarnings)
  | [] => ({ directives := directivesOf [] }, [])

/-- The directive that decides about an origin: the one with the longest stem, and of several such
the last. -/
def decisive? (filter : Filter) (origin : String) : Option Directive :=
  (filter.directives.filter (·.concerns origin)).foldl
    (fun best directive =>
      if best.any fun best => directive.stem.length < best.stem.length then best
      else some directive) none

/-- Whether an entry is shown: the decisive directive must go down to its level, and the pattern
must occur in its message. -/
def shows (filter : Filter) (entry : Entry) : Bool :=
  ((filter.decisive? entry.origin).any fun directive =>
      entry.level.verbosity ≤ directive.verbosity) &&
    filter.pattern.occursIn entry.message

end Filter

/-- The line that shows an entry: its level and origin between brackets, then the message. -/
def Entry.line (entry : Entry) : String :=
  let level := entry.level.name
  "[" ++ level ++ String.ofList (List.replicate (5 - level.length) ' ') ++ " " ++ entry.origin ++
    "] " ++ entry.message

end ShaderHandles
