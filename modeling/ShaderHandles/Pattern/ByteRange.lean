import ShaderHandles.Pattern.CharSet

/-!
# Characters as ranges of bytes

The UTF-8 forms of a set of characters are written as sequences of byte ranges: a sequence stands
for all forms that take one byte from each of its ranges. A range of characters is cut until its
forms have one length and only their last bytes run through all values.

* `CodeRange.byteSequences`: the sequences of a range of characters.
* `CharSet.byteSequences`: the sequences of a set.
* `CodeRange.cut?_between`: a cut leaves something on both sides, so the cutting comes to an end.
-/

namespace ShaderHandles

/-- The bytes between two, both included. -/
structure ByteRange where
  first : UInt8
  last : UInt8
  deriving DecidableEq

/-- The UTF-8 forms that take one byte from each range. -/
abbrev ByteSequence := List ByteRange

namespace CodeRange

/-- The first code points of the forms of two, three and four bytes. -/
def lengthStarts : List Nat := [0x80, 0x800, 0x10000]

/-- The numbers of code points whose forms differ in the last byte, in the last two and in the last
three bytes only. -/
def blockSizes : List Nat := [0x40, 0x1000, 0x40000]

/-- Where a range leaves a block, if it does not begin or end with a block. -/
def blockCut? (first last size : Nat) : Option Nat :=
  if first / size = last / size then none
  else if first % size ≠ 0 then some ((first / size + 1) * size)
  else if last % size ≠ size - 1 then some (last / size * size)
  else none

/-- Where a range of code points has to be cut. -/
def cut? (first last : Nat) : Option Nat :=
  match lengthStarts.find? fun start => first < start && start ≤ last with
  | some start => some start
  | none =>
    if last < 0x80 then none
    else (blockSizes.findSome? (blockCut? first last)).filter fun n => first < n && n ≤ last

theorem cut?_between {first last n : Nat} (h : cut? first last = some n) : first < n ∧ n ≤ last := by
  unfold cut? at h
  split at h
  · rename_i start hstart
    cases h
    simpa using List.find?_some hstart
  · split at h
    · cases h
    · simpa using (Option.filter_eq_some_iff.mp h).2

/-- The sequence of a range that needs no cut: the first and the last form, byte by byte. -/
def uncutSequence (first last : Nat) : ByteSequence :=
  List.zipWith ByteRange.mk (String.utf8EncodeChar (Char.ofNat first))
    (String.utf8EncodeChar (Char.ofNat last))

/-- The sequences of the characters between two. -/
def byteSequences (first last : Nat) : List ByteSequence :=
  match h : cut? first last with
  | some n =>
    have := cut?_between h
    byteSequences first (n - 1) ++ byteSequences n last
  | none => [uncutSequence first last]
termination_by last - first

end CodeRange

def CharSet.byteSequences (set : CharSet) : List ByteSequence :=
  set.ranges.flatMap fun range => CodeRange.byteSequences range.first range.last

/-- The sequences of what may follow some ranges, in those sequences that begin with them. -/
def ByteSequence.after (start : ByteSequence) (sequences : List ByteSequence) :
    List ByteSequence :=
  (sequences.filter (start.isPrefixOf ·)).map (·.drop start.length)

/-- What sequences begin with, apart from the whole sequences. -/
def ByteSequence.starts (sequences : List ByteSequence) : List ByteSequence :=
  (sequences.flatMap fun sequence =>
    (List.range sequence.length).map sequence.take).eraseDups

end ShaderHandles
