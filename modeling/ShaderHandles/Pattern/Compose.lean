import ShaderHandles.Pattern.Basic

/-!
# Putting patterns together

Patterns are put together in a reduced form: texts that follow each other are one text, sets that
are alternatives are one set, parts that all alternatives begin with come before them, and
repetitions that change nothing are left out. The reduced form decides how large the automaton of a
pattern is.

* `Pattern.join`: patterns one after the other.
* `Pattern.choice`: patterns as alternatives.
* `Pattern.times`: a repeated pattern.
-/

namespace ShaderHandles.Pattern

/-! ## One after the other -/

/-- The parts of a pattern that stand one after the other. -/
def parts : Pattern → List Pattern
  | empty => []
  | concat first second => first.parts ++ second.parts
  | pattern => [pattern]

/-- Parts in which texts that follow each other are one text. -/
def joinTexts : List Pattern → List Pattern
  | [] => []
  | text first :: rest =>
    match joinTexts rest with
    | text second :: rest => text (first ++ second) :: rest
    | rest => text first :: rest
  | part :: rest => part :: joinTexts rest

/-- The pattern of parts one after the other. -/
def ofParts : List Pattern → Pattern
  | [] => empty
  | [part] => part
  | part :: rest => concat part (ofParts rest)

/-- Patterns one after the other, reduced. -/
def join (patterns : List Pattern) : Pattern := ofParts (joinTexts (patterns.flatMap parts))

/-! ## Alternatives -/

def ofSet (set : CharSet) : Pattern :=
  match set.ranges with
  | [] => never
  | [range] => if range.first = range.last then text [Char.ofNat range.first] else chars set
  | _ => chars set

def branches : Pattern → List Pattern
  | either first second => first.branches ++ second.branches
  | pattern => [pattern]

def ofBranches : List Pattern → Pattern
  | [] => never
  | [branch] => branch
  | branch :: rest => either branch (ofBranches rest)

def character? : Pattern → Option CharSet
  | text [c] => some (.between .characters c c)
  | _ => none

def set? : Pattern → Option CharSet
  | chars set => some set
  | _ => none

/-- Alternatives that are all single characters, or all sets, as one pattern. -/
def ofSets? (branches : List Pattern) : Option Pattern :=
  ((branches.mapM character?).or (branches.mapM set?)).map fun sets =>
    ofSet (sets.foldl CharSet.union (.nothing .characters))

/-- What two lists of parts begin with. -/
def commonParts : List Pattern → List Pattern → List Pattern
  | a :: as, b :: bs => if a = b then a :: commonParts as bs else []
  | _, _ => []

/-- The parts of a pattern, if it has several. -/
def severalParts? : Pattern → Option (List Pattern)
  | concat first second => some (concat first second).parts
  | _ => none

/-- The parts that all alternatives begin with, and what is left of each alternative. -/
def shared? (branches : List Pattern) : Option (List Pattern × List Pattern) := do
  match ← branches.mapM severalParts? with
  | [] => none
  | first :: rest =>
    let shared := rest.foldl commonParts first
    if shared.isEmpty then none
    else some (shared, (first :: rest).map fun parts => join (parts.drop shared.length))

/-- Patterns as alternatives, reduced but for what they all begin with. -/
def plainChoice (patterns : List Pattern) : Pattern :=
  match patterns.flatMap branches with
  | [] => never
  | [branch] => branch
  | branches => (ofSets? branches).getD (ofBranches branches)

/-- Patterns as alternatives, reduced. What is left behind a common beginning has no common
beginning of its own. -/
def choice (patterns : List Pattern) : Pattern :=
  match patterns.flatMap branches with
  | [] => never
  | [branch] => branch
  | branches =>
    match ofSets? branches, shared? branches with
    | some pattern, _ => pattern
    | none, some (shared, rests) => join (shared ++ [plainChoice rests])
    | none, none => ofBranches branches

/-! ## Repetition -/

/-- A repeated pattern, reduced. What takes no characters is repeated once at most. -/
def times (body : Pattern) (least : Nat) (most : Option Nat) (eager : Bool) : Pattern :=
  let isIdle := body.greatest? = some 0
  let least := if isIdle then min least 1 else least
  let most := if isIdle then some (min (most.getD 1) 1) else most
  if least = 0 ∧ most = some 0 then empty
  else if least = 1 ∧ most = some 1 then body
  else repeated body least most eager

end ShaderHandles.Pattern
