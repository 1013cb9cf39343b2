/-!
# Sets of characters

A set is kept as ranges of code points in increasing order, with a gap between any two of them. So
equal sets have equal ranges. Sets are put together by the gaps and the common parts of ranges.

* `CharSet.mem`: membership.
* `CharSet.union`, `CharSet.inter`, `CharSet.compl`: set algebra.
* `CharSet.ignoringCase`: a set together with the other case of its ASCII letters.
* `CodeRange.named?`: the sets that have a name.
-/

namespace ShaderHandles

/-! ## Ranges -/

/-- The code points between two, both included. -/
structure CodeRange where
  first : Nat
  last : Nat
  deriving DecidableEq

namespace CodeRange

/-- The last code point. -/
def greatest : Nat := 0x10ffff

/-- The code points that two ranges share. -/
def overlap? (a b : CodeRange) : Option CodeRange :=
  if max a.first b.first ≤ min a.last b.last then
    some ⟨max a.first b.first, min a.last b.last⟩
  else none

/-- The code points that are in ranges of both lists. -/
def common (as bs : List CodeRange) : List CodeRange :=
  as.flatMap fun a => bs.filterMap (overlap? a)

/-- The code points from a start on that are in no range. -/
def gaps (start : Nat) : List CodeRange → List CodeRange
  | [] => if start ≤ greatest then [⟨start, greatest⟩] else []
  | range :: ranges =>
    if start < range.first then ⟨start, range.first - 1⟩ :: gaps (range.last + 1) ranges
    else gaps (range.last + 1) ranges

/-- The code points that are in ranges of one of two lists: the gaps of what both leave out. -/
def merge (as bs : List CodeRange) : List CodeRange := gaps 0 (common (gaps 0 as) (gaps 0 bs))

def covers (ranges : List CodeRange) (n : Nat) : Bool :=
  ranges.any fun range => range.first ≤ n && n ≤ range.last

/-! ## Ranges with a name -/

def digits : List CodeRange := [⟨0x30, 0x39⟩]

/-- The upper-case letters. -/
def upper : CodeRange := ⟨0x41, 0x5a⟩

/-- The lower-case letters. -/
def lower : CodeRange := ⟨0x61, 0x7a⟩

def word : List CodeRange := digits ++ [upper, ⟨0x5f, 0x5f⟩, lower]

def space : List CodeRange := [⟨0x9, 0xd⟩, ⟨0x20, 0x20⟩]

/-- The ranges that a name between colons stands for. -/
def named? (name : String) : Option (List CodeRange) :=
  [("alnum", digits ++ [upper, lower]), ("alpha", [upper, lower]), ("ascii", [⟨0, 0x7f⟩]),
    ("blank", [⟨0x9, 0x9⟩, ⟨0x20, 0x20⟩]), ("cntrl", [⟨0, 0x1f⟩, ⟨0x7f, 0x7f⟩]),
    ("digit", digits), ("graph", [⟨0x21, 0x7e⟩]), ("lower", [lower]), ("print", [⟨0x20, 0x7e⟩]),
    ("punct", [⟨0x21, 0x2f⟩, ⟨0x3a, 0x40⟩, ⟨0x5b, 0x60⟩, ⟨0x7b, 0x7e⟩]), ("space", space),
    ("upper", [upper]), ("word", word),
    ("xdigit", digits ++ [⟨0x41, 0x46⟩, ⟨0x61, 0x66⟩])].lookup name

end CodeRange

/-! ## Sets -/

/-- What a set is a part of. -/
inductive Repertoire where
  /-- The numbers of one byte. -/
  | bytes
  /-- All characters. -/
  | characters
  deriving DecidableEq

/-- The code points of a repertoire. Surrogates are no characters. -/
def Repertoire.ranges : Repertoire → List CodeRange
  | bytes => [⟨0, 0xff⟩]
  | characters => [⟨0, 0xd7ff⟩, ⟨0xe000, CodeRange.greatest⟩]

structure CharSet where
  repertoire : Repertoire
  ranges : List CodeRange
  deriving DecidableEq

namespace CharSet

open CodeRange

def mem (set : CharSet) (c : Char) : Bool := covers set.ranges c.toNat

/-- The set without members. -/
def nothing (repertoire : Repertoire) : CharSet := ⟨repertoire, []⟩

def between (repertoire : Repertoire) (first last : Char) : CharSet :=
  ⟨repertoire, common repertoire.ranges [⟨first.toNat, last.toNat⟩]⟩

def union (first second : CharSet) : CharSet :=
  { first with ranges := merge first.ranges second.ranges }

def inter (first second : CharSet) : CharSet :=
  { first with ranges := common first.ranges second.ranges }

def compl (set : CharSet) : CharSet :=
  { set with ranges := common set.repertoire.ranges (gaps 0 set.ranges) }

def diff (first second : CharSet) : CharSet := first.inter second.compl

def symmDiff (first second : CharSet) : CharSet := (first.diff second).union (second.diff first)

def complIf (negated : Bool) (set : CharSet) : CharSet := if negated then set.compl else set

/-- A set and the other case of its ASCII letters. -/
def ignoringCase (set : CharSet) : CharSet :=
  let lowered := (common [upper] set.ranges).map fun range => ⟨range.first + 32, range.last + 32⟩
  let raised := (common [lower] set.ranges).map fun range => ⟨range.first - 32, range.last - 32⟩
  { set with ranges := merge set.ranges (raised ++ lowered) }

def isAscii (set : CharSet) : Bool := set.ranges.all (·.last < 0x80)

end CharSet

end ShaderHandles
