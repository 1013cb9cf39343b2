import ShaderHandles.Proofs.Artifacts.Layout
import ShaderHandles.Proofs.C.Word

/-!
# Texts as lines

A text is taken apart at its line ends. Lines that hold no line end are found again in the text that
they make up, and the lines between two lines are found if those two are what they are looked for by.

* `linesOf_lines`: the lines of a text that was written line by line.
* `between_eq`: the lines between an opening line and the closing line after it.
-/

namespace ShaderHandles.Text

/-- The lines of a text. What stands after the last line end is a line if it is not empty. -/
def linesOf (text : String) : List String :=
  let parts := text.toList.splitOn '\n'
  (if parts.getLast? = some [] then parts.dropLast else parts).map String.ofList

/-- The lines after the first line that is `opening`, up to a line that is `closing`. -/
def between (opening closing : String) (lines : List String) : List String :=
  ((lines.dropWhile (· ≠ opening)).drop 1).takeWhile (· ≠ closing)

/-- A text without a line end. -/
def IsLine (text : String) : Prop := '\n' ∉ text.toList

instance (text : String) : Decidable (IsLine text) := inferInstanceAs (Decidable ('\n' ∉ text.toList))

namespace IsLine

theorem append_iff {first second : String} :
    IsLine (first ++ second) ↔ IsLine first ∧ IsLine second := by
  unfold IsLine
  rw [String.toList_append, List.mem_append, not_or]

theorem of_isIdentifier {name : String} (hName : C.isIdentifier name = true) : IsLine name :=
  C.not_mem_of_isIdentifier hName rfl

theorem of_isQuotable {text : String} (hText : C.isQuotable text = true) : IsLine text :=
  C.not_mem_of_isQuotable hText rfl

end IsLine

/-- A line that begins with a blank, as every line inside of a block does. -/
structure Indented (line : String) : Prop where
  head : line.toList.head? = some ' '
  isLine : IsLine line

namespace Indented

theorem append {first second : String} (hFirst : Indented first) (hSecond : IsLine second) :
    Indented (first ++ second) := by
  refine ⟨?_, IsLine.append_iff.mpr ⟨hFirst.isLine, hSecond⟩⟩
  rw [String.toList_append, List.head?_append, hFirst.head]
  rfl

/-- A line that begins otherwise does not stand among indented lines. -/
theorem not_mem {line : String} {lines : List String} (hLine : line.toList.head? ≠ some ' ')
    (hLines : ∀ other ∈ lines, Indented other) : line ∉ lines :=
  fun hMem => hLine (hLines line hMem).head

end Indented

theorem splitOn_lines {lines : List String} (hLines : ∀ line ∈ lines, IsLine line) :
    (Template.lines lines).toList.splitOn '\n' = lines.map String.toList ++ [[]] := by
  induction lines with
  | nil => rfl
  | cons line rest ih =>
    have hLine : '\n' ∉ line.toList := hLines line List.mem_cons_self
    have hText : (Template.lines (line :: rest)).toList =
        line.toList ++ '\n' :: (Template.lines rest).toList := by
      rw [Template.lines_cons, String.toList_append, String.toList_append, List.append_assoc]
      rfl
    rw [hText, List.splitOn_append_cons_self_of_not_mem hLine,
      ih fun other hOther => hLines other (List.mem_cons_of_mem line hOther)]
    rfl

/-- Lines that hold no line end are found again in the text that they make up. -/
theorem linesOf_lines {lines : List String} (hLines : ∀ line ∈ lines, IsLine line) :
    linesOf (Template.lines lines) = lines := by
  simp [linesOf, splitOn_lines hLines, Function.comp_def]

/-- The lines between two lines are found if the first does not stand before them and the second not
among them. -/
theorem between_eq {opening closing : String} {before inner after : List String}
    (hOpening : opening ∉ before) (hClosing : closing ∉ inner) :
    between opening closing (before ++ opening :: (inner ++ closing :: after)) = inner := by
  have hBefore : ∀ line ∈ before, decide (line ≠ opening) = true :=
    fun line hLine => decide_eq_true fun hEq => hOpening (hEq ▸ hLine)
  have hInner : ∀ line ∈ inner, decide (line ≠ closing) = true :=
    fun line hLine => decide_eq_true fun hEq => hClosing (hEq ▸ hLine)
  have hDrop : (opening :: (inner ++ closing :: after)).dropWhile (· ≠ opening) =
      opening :: (inner ++ closing :: after) := by simp
  have hTake : (closing :: after).takeWhile (· ≠ closing) = [] := by simp
  rw [between, List.dropWhile_append_of_pos hBefore, hDrop, List.drop_one, List.tail_cons,
    List.takeWhile_append_of_pos hInner, hTake, List.append_nil]

/-- A line of blocks with empty lines between them. -/
theorem mem_blocks {line : String} {blocks : List (List String)}
    (hLine : line ∈ [""].intercalate blocks) : line = "" ∨ ∃ block ∈ blocks, line ∈ block := by
  induction blocks with
  | nil => exact absurd hLine List.not_mem_nil
  | cons block rest ih =>
    cases rest with
    | nil => exact Or.inr ⟨block, List.mem_cons_self, by simpa using hLine⟩
    | cons next rest =>
      rw [List.intercalate_cons_of_ne_nil (List.cons_ne_nil next rest), List.mem_append,
        List.mem_append, List.mem_singleton] at hLine
      rcases hLine with (hBlock | hEmpty) | hRest
      · exact Or.inr ⟨block, List.mem_cons_self, hBlock⟩
      · exact Or.inl hEmpty
      · rcases ih hRest with hEmpty | ⟨other, hOther, hMem⟩
        · exact Or.inl hEmpty
        · exact Or.inr ⟨other, List.mem_cons_of_mem block hOther, hMem⟩

theorem mem_blocks_of_mem {line : String} {block : List String} {blocks : List (List String)}
    (hBlock : block ∈ blocks) (hLine : line ∈ block) : line ∈ [""].intercalate blocks := by
  induction blocks with
  | nil => exact absurd hBlock List.not_mem_nil
  | cons first rest ih =>
    cases rest with
    | nil =>
      rw [List.mem_singleton.mp hBlock] at hLine
      simpa using hLine
    | cons next rest =>
      rw [List.intercalate_cons_of_ne_nil (List.cons_ne_nil next rest), List.mem_append]
      rcases List.mem_cons.mp hBlock with rfl | hRest
      · exact .inl (List.mem_append_left _ hLine)
      · exact .inr (ih hRest)

end ShaderHandles.Text
