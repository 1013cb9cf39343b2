import ShaderHandles.Proofs.C.Translation
import ShaderHandles.Text.Hex
import Mathlib.Data.List.DropRight

/-!
# String literals

After the first phases a compiler of C99 takes the text apart into tokens, and then replaces the escape
sequences in string literals. A character outside of an escape sequence stands for its bytes in UTF-8,
an escape sequence for one byte or, if it names a character by its number, for the bytes of that
character.

* `readLiteral`: the bytes of the string literal that a text begins with, and the text behind it.
* `readLiteral_quote_iff`: between quotes a quotable text is read as a literal with the bytes of the
  text exactly if it holds no trigraph.
* `passed?`: the bytes of the string literals that a line passes to a function.
-/

namespace ShaderHandles.C

/-! ## One literal -/

/-- The escape sequences of one letter or sign. -/
def simpleEscapes : List (Char × UInt8) :=
  [('\x27', 0x27), ('"', 0x22), ('?', 0x3f), ('\\', 0x5c), ('a', 0x07), ('b', 0x08), ('f', 0x0c),
    ('n', 0x0a), ('r', 0x0d), ('t', 0x09), ('v', 0x0b)]

def isOctalDigit (c : Char) : Bool := '0' ≤ c && c ≤ '7'

def octalNumber (digits : List Char) : Nat :=
  digits.foldl (fun number c => number * 8 + (c.toNat - 48)) 0

/-- The byte of a number, which has to be in its range. -/
def byte? (number : Nat) : Option (List UInt8) :=
  if number < 256 then some [number.toUInt8] else none

/-- The bytes of the character of a number. Halves of pairs and most characters before U+00A0 cannot
be named in this way. -/
def universal? (number : Nat) : Option (List UInt8) :=
  if number < 0xa0 ∧ number ∉ [0x24, 0x40, 0x60] ∨ 0xd800 ≤ number ∧ number ≤ 0xdfff ∨
      0x10ffff < number then none
  else some (String.utf8EncodeChar (Char.ofNat number))

/-- The bytes of an escape sequence after its backslash, and the text behind it. -/
def readEscape (text : List Char) : Option (List UInt8 × List Char) :=
  match text with
  | [] => none
  | c :: rest =>
    if isOctalDigit c then
      let digits := c :: (rest.takeWhile isOctalDigit).take 2
      (byte? (octalNumber digits)).map (·, text.drop digits.length)
    else if c = 'x' then
      let digits := rest.takeWhile fun c => (Text.hexValue? c).isSome
      if digits.isEmpty then none
      else ((Text.hexNumber? digits).bind byte?).map (·, rest.drop digits.length)
    else if c = 'u' then universal 4 rest
    else if c = 'U' then universal 8 rest
    else (simpleEscapes.lookup c).map fun byte => ([byte], rest)
where
  /-- A character by the digits of its number. -/
  universal (count : Nat) (rest : List Char) : Option (List UInt8 × List Char) :=
    if rest.length < count then none
    else ((Text.hexNumber? (rest.take count)).bind universal?).map (·, rest.drop count)

/-- The bytes of a character of a literal or of the escape sequence that it begins, and the text behind
it. No literal goes on in the next line. -/
def readElement (c : Char) (rest : List Char) : Option (List UInt8 × List Char) :=
  if c = '\\' then readEscape rest
  else if c = '\n' then none
  else some (String.utf8EncodeChar c, rest)

/-- The bytes of a literal after its opening quote, and the text behind its closing quote. Every step
takes at least one character, so a budget over the length of the text is never used up. -/
def readElements : (budget : Nat) → List Char → Option (List UInt8 × List Char)
  | 0, _ => none
  | _ + 1, [] => none
  | budget + 1, c :: rest =>
    if c = '"' then some ([], rest)
    else do
      let (value, rest) ← readElement c rest
      let (others, rest) ← readElements budget rest
      return (value ++ others, rest)

/-- The bytes of the string literal that a text begins with, and the text behind it. -/
def readLiteral (text : List Char) : Option (List UInt8 × List Char) :=
  match text with
  | '"' :: rest => readElements (rest.length + 1) rest
  | _ => none

theorem length_eq_one_of_byte? {number : Nat} {value : List UInt8}
    (hByte : byte? number = some value) : value.length = 1 := by
  unfold byte? at hByte
  split at hByte
  · cases hByte
    rfl
  · exact nomatch hByte

theorem length_le_of_universal? {number : Nat} {value : List UInt8}
    (hUniversal : universal? number = some value) : value.length ≤ 4 := by
  unfold universal? at hUniversal
  split at hUniversal
  · exact nomatch hUniversal
  · cases hUniversal
    rw [String.length_utf8EncodeChar]
    exact Char.utf8Size_le_four _

theorem readEscape.universal_eq_some {count : Nat} {text rest : List Char} {value : List UInt8}
    (hRead : readEscape.universal count text = some (value, rest)) :
    text = text.take count ++ rest ∧ (text.take count).length = count ∧ value.length ≤ 4 := by
  unfold readEscape.universal at hRead
  split at hRead
  · exact nomatch hRead
  · rename_i hLength
    obtain ⟨found, hFound, hEq⟩ := Option.map_eq_some_iff.mp hRead
    obtain ⟨number, -, hUniversal⟩ := Option.bind_eq_some_iff.mp hFound
    cases hEq
    refine ⟨(List.take_append_drop count text).symm, ?_, length_le_of_universal? hUniversal⟩
    rw [List.length_take]
    omega

/-- An escape sequence has no more bytes than characters. -/
theorem readEscape_eq_some {text rest : List Char} {value : List UInt8}
    (hRead : readEscape text = some (value, rest)) :
    ∃ spelled, text = spelled ++ rest ∧ value.length ≤ spelled.length := by
  cases text with
  | nil => exact nomatch hRead
  | cons c tail =>
    -- The kinds of escape sequences: octal, hexadecimal, two by the number of a character, one letter.
    simp only [readEscape] at hRead
    split at hRead
    · obtain ⟨found, hFound, hEq⟩ := Option.map_eq_some_iff.mp hRead
      cases hEq
      refine ⟨_, (List.take_append_drop _ (c :: tail)).symm, ?_⟩
      rw [length_eq_one_of_byte? hFound, List.length_take]
      simp
    split at hRead
    · split at hRead
      · exact nomatch hRead
      · obtain ⟨found, hFound, hEq⟩ := Option.map_eq_some_iff.mp hRead
        obtain ⟨number, -, hByte⟩ := Option.bind_eq_some_iff.mp hFound
        cases hEq
        refine ⟨c :: tail.take _, congrArg (c :: ·) (List.take_append_drop _ tail).symm, ?_⟩
        rw [length_eq_one_of_byte? hByte]
        simp
    split at hRead
    · obtain ⟨hText, hLength, hValue⟩ := readEscape.universal_eq_some hRead
      refine ⟨c :: tail.take 4, congrArg (c :: ·) hText, ?_⟩
      rw [List.length_cons, hLength]
      omega
    split at hRead
    · obtain ⟨hText, hLength, hValue⟩ := readEscape.universal_eq_some hRead
      refine ⟨c :: tail.take 8, congrArg (c :: ·) hText, ?_⟩
      rw [List.length_cons, hLength]
      omega
    · obtain ⟨byte, -, hEq⟩ := Option.map_eq_some_iff.mp hRead
      cases hEq
      exact ⟨[c], rfl, Nat.le_refl 1⟩

theorem readElement_eq_some {c : Char} {text rest : List Char} {value : List UInt8}
    (hRead : readElement c text = some (value, rest)) :
    ∃ spelled, c :: text = spelled ++ rest ∧ value.length ≤ (bytes spelled).length := by
  unfold readElement at hRead
  split at hRead
  · obtain ⟨escape, hEscape, hValue⟩ := readEscape_eq_some hRead
    have hBytes := length_le_length_bytes (c :: escape)
    rw [List.length_cons] at hBytes
    exact ⟨c :: escape, congrArg (c :: ·) hEscape, by omega⟩
  split at hRead
  · exact nomatch hRead
  · cases hRead
    exact ⟨[c], rfl, by simp [bytes]⟩

/-- What is read up to a closing quote has no more bytes than the text that it is read from. -/
theorem readElements_eq_some {budget : Nat} {text rest : List Char} {value : List UInt8}
    (hRead : readElements budget text = some (value, rest)) :
    ∃ spelled, text = spelled ++ '"' :: rest ∧ value.length ≤ (bytes spelled).length := by
  induction budget generalizing text value with
  | zero => exact nomatch hRead
  | succ budget ih =>
    cases text with
    | nil => exact nomatch hRead
    | cons c tail =>
      rw [readElements] at hRead
      split at hRead
      · rename_i hQuote
        cases hRead
        exact ⟨[], by rw [hQuote]; rfl, Nat.le_refl 0⟩
      · obtain ⟨⟨first, middle⟩, hFirst, hMore⟩ := Option.bind_eq_some_iff.mp hRead
        obtain ⟨⟨others, last⟩, hOthers, hEq⟩ := Option.bind_eq_some_iff.mp hMore
        cases hEq
        obtain ⟨start, hText, hValue⟩ := readElement_eq_some hFirst
        obtain ⟨spelled, hMiddle, hLength⟩ := ih hOthers
        refine ⟨start ++ spelled, ?_, ?_⟩
        · rw [hText, hMiddle, List.append_assoc]
        · rw [bytes_append, List.length_append, List.length_append]
          omega

/-- Characters that stand for themselves are read up to the closing quote. -/
theorem readElements_of_isLiteralChar {budget : Nat} {chars rest : List Char}
    (hChars : ∀ c ∈ chars, isLiteralChar c = true) (hBudget : chars.length < budget) :
    readElements budget (chars ++ '"' :: rest) = some (bytes chars, rest) := by
  induction chars generalizing budget with
  | nil =>
    cases budget with
    | zero => exact absurd hBudget (Nat.not_lt_zero _)
    | succ budget => rfl
  | cons c tail ih =>
    cases budget with
    | zero => exact absurd hBudget (Nat.not_lt_zero _)
    | succ budget =>
      have hc := hChars c List.mem_cons_self
      have hNot (other : Char) (hOther : isLiteralChar other = false) : c ≠ other := by
        rintro rfl
        exact Bool.false_ne_true (hOther.symm.trans hc)
      have hRest := ih (fun other hOther => hChars other (List.mem_cons_of_mem c hOther))
        (Nat.lt_of_succ_lt_succ hBudget)
      simp [readElements, readElement, hNot '"' rfl, hNot '\\' rfl, hNot '\n' rfl, hRest, bytes_cons]

theorem readLiteral_eq_some {text rest : List Char} {value : List UInt8}
    (hRead : readLiteral text = some (value, rest)) :
    ∃ spelled, text = '"' :: (spelled ++ '"' :: rest) ∧ value.length ≤ (bytes spelled).length := by
  unfold readLiteral at hRead
  split at hRead
  · obtain ⟨spelled, hText, hLength⟩ := readElements_eq_some hRead
    exact ⟨spelled, congrArg ('"' :: ·) hText, hLength⟩
  · exact nomatch hRead

theorem readLiteral_of_isLiteralChar {chars : List Char}
    (hChars : ∀ c ∈ chars, isLiteralChar c = true) (rest : List Char) :
    readLiteral ('"' :: (chars ++ '"' :: rest)) = some (bytes chars, rest) := by
  refine readElements_of_isLiteralChar hChars ?_
  rw [List.length_append]
  omega

/-- Between quotes a quotable text is read as one literal with the bytes of the text exactly if the
text holds no trigraph. -/
theorem readLiteral_quote_iff {text : String} (hText : isQuotable text = true) (after : List Char) :
    readLiteral (translate ((quote text).toList ++ after)) =
        some (text.toUTF8.data.toList, translate after) ↔ ¬ HasTrigraph text.toList := by
  rw [translate_quote (not_mem_of_isQuotable hText rfl), toList_toUTF8]
  constructor
  · intro hRead hTrigraph
    -- The same text is behind the literal, so all that was read is what the first phase left.
    obtain ⟨spelled, hSpelled, hLength⟩ := readLiteral_eq_some hRead
    rw [← List.append_cancel_right (List.cons.inj hSpelled).2] at hLength
    have hShorter := length_bytes_replaceTrigraphs_of_hasTrigraph hTrigraph
    omega
  · intro hTrigraph
    rw [replaceTrigraphs_eq_self hTrigraph]
    exact readLiteral_of_isLiteralChar (isLiteralChar_of_isQuotable hText) _

example : readLiteral (translate (quote "a??/x41??/101??!").toList) =
    some ([0x61, 0x41, 0x41, 0x7c], []) := by decide +kernel

/-! ## Literals that a call passes -/

/-- The bytes of the string literals from behind the opening parenthesis of a call up to its closing
one, and the text behind that. A comma and any blanks stand between two literals, and the budget has
to be over their number. -/
def readLiterals : (budget : Nat) → List Char → Option (List (List UInt8) × List Char)
  | 0, _ => none
  | budget + 1, text => do
    let (value, rest) ← readLiteral text
    match rest with
    | ')' :: rest => return ([value], rest)
    | ',' :: rest =>
      let (others, rest) ← readLiterals budget (rest.dropWhile (· = ' '))
      return (value :: others, rest)
    | _ => none

/-- The bytes of the string literals that a line passes to a function, if the first call in it is one
of that function and passes nothing else, and the text behind the call. -/
def passed? (function line : String) : Option (List (List UInt8) × List Char) :=
  let before := line.toList.takeWhile (· ≠ '(')
  let inside := line.toList.drop (before.length + 1)
  if before.rtakeWhile isIdentifierPart = function.toList then readLiterals inside.length inside
  else none

theorem length_bytes_cons_of_ascii {c : Char} (hc : c.utf8Size = 1) (rest : List Char) :
    (bytes (c :: rest)).length = 1 + (bytes rest).length := by
  rw [bytes_cons, List.length_append, String.length_utf8EncodeChar, hc]

/-- Around a literal stand two quotation marks, and a mark behind it. -/
theorem length_bytes_literal {mark : Char} (hMark : mark.utf8Size = 1) (spelled others : List Char) :
    (bytes ('"' :: (spelled ++ '"' :: mark :: others))).length =
      (bytes spelled).length + 3 + (bytes others).length := by
  have hQuote : '"'.utf8Size = 1 := by decide
  rw [length_bytes_cons_of_ascii hQuote, bytes_append, List.length_append,
    length_bytes_cons_of_ascii hQuote, length_bytes_cons_of_ascii hMark]
  omega

/-- Every literal is read from at least as many bytes as it has, two quotation marks, and the mark
behind it. -/
theorem readLiterals_eq_some {budget : Nat} {text rest : List Char} {values : List (List UInt8)}
    (hRead : readLiterals budget text = some (values, rest)) :
    ∃ spelled, text = spelled ++ rest ∧
      values.flatten.length + 3 * values.length ≤ (bytes spelled).length := by
  induction budget generalizing text values with
  | zero => exact nomatch hRead
  | succ budget ih =>
    obtain ⟨⟨value, middle⟩, hLiteral, hMore⟩ := Option.bind_eq_some_iff.mp hRead
    obtain ⟨spelled, hText, hLength⟩ := readLiteral_eq_some hLiteral
    dsimp only at hMore
    split at hMore
    · cases hMore
      refine ⟨'"' :: (spelled ++ ['"', ')']), by simp [hText], ?_⟩
      rw [length_bytes_literal (by decide) spelled []]
      simp only [List.flatten_singleton, List.length_singleton]
      omega
    · rename_i tail
      obtain ⟨⟨others, last⟩, hOthers, hEq⟩ := Option.bind_eq_some_iff.mp hMore
      simp only [Option.pure_def, Option.some.injEq, Prod.mk.injEq] at hEq
      obtain ⟨rfl, rfl⟩ := hEq
      obtain ⟨inner, hInner, hSum⟩ := ih hOthers
      have hTail : tail = tail.takeWhile (· = ' ') ++ (inner ++ last) := by
        rw [← hInner, List.takeWhile_append_dropWhile]
      refine ⟨'"' :: (spelled ++ '"' :: ',' :: (tail.takeWhile (· = ' ') ++ inner)), ?_, ?_⟩
      · rw [hText]
        conv_lhs => rw [hTail]
        simp only [List.cons_append, List.append_assoc]
      · rw [length_bytes_literal (by decide), bytes_append, List.length_append, List.flatten_cons,
          List.length_append, List.length_cons]
        omega
    · exact nomatch hMore

theorem readLiterals_last {text rest : List Char} {value : List UInt8}
    (hLiteral : readLiteral text = some (value, ')' :: rest)) (budget : Nat) :
    readLiterals (budget + 1) text = some ([value], rest) := by
  rw [readLiterals, hLiteral]
  rfl

theorem readLiterals_next {budget : Nat} {text middle rest : List Char} {value : List UInt8}
    {others : List (List UInt8)} (hLiteral : readLiteral text = some (value, ',' :: middle))
    (hOthers : readLiterals budget (middle.dropWhile (· = ' ')) = some (others, rest)) :
    readLiterals (budget + 1) text = some (value :: others, rest) := by
  rw [readLiterals, hLiteral]
  simp [hOthers]

/-- Two quotable texts are read as they are exactly if neither holds a trigraph. A trigraph in one of
them leaves fewer bytes than the two values have, wherever the literals end. -/
theorem readLiterals_pair_iff {first second : String} {budget : Nat}
    (hFirst : isQuotable first = true) (hSecond : isQuotable second = true) (hBudget : 2 ≤ budget)
    (after : List Char) :
    readLiterals budget ('"' :: (replaceTrigraphs first.toList ++ '"' :: ',' :: ' ' ::
        '"' :: (replaceTrigraphs second.toList ++ '"' :: ')' :: after))) =
      some ([first.toUTF8.data.toList, second.toUTF8.data.toList], after) ↔
        ¬ HasTrigraph first.toList ∧ ¬ HasTrigraph second.toList := by
  rw [toList_toUTF8, toList_toUTF8]
  constructor
  · intro hRead
    obtain ⟨spelled, hSpelled, hLength⟩ := readLiterals_eq_some hRead
    have hEq : spelled = '"' :: (replaceTrigraphs first.toList ++ '"' :: ',' :: ' ' ::
        '"' :: (replaceTrigraphs second.toList ++ ['"', ')'])) := by
      refine List.append_cancel_right (hSpelled.symm.trans ?_)
      simp
    have hComma : ','.utf8Size = 1 := by decide
    have hBlank : ' '.utf8Size = 1 := by decide
    have hClosing : ')'.utf8Size = 1 := by decide
    rw [hEq, length_bytes_literal hComma, length_bytes_cons_of_ascii hBlank,
      length_bytes_literal hClosing] at hLength
    simp only [List.flatten_cons, List.flatten_nil, List.length_append, List.length_cons,
      List.length_nil, bytes_nil] at hLength
    have hFirstLength := length_bytes_replaceTrigraphs_le first.toList
    have hSecondLength := length_bytes_replaceTrigraphs_le second.toList
    constructor
    · intro hTrigraph
      have hShorter := length_bytes_replaceTrigraphs_of_hasTrigraph hTrigraph
      omega
    · intro hTrigraph
      have hShorter := length_bytes_replaceTrigraphs_of_hasTrigraph hTrigraph
      omega
  · rintro ⟨hFirstText, hSecondText⟩
    rw [replaceTrigraphs_eq_self hFirstText, replaceTrigraphs_eq_self hSecondText]
    obtain ⟨rest, rfl⟩ := Nat.exists_eq_add_of_le' hBudget
    have hLast := readLiterals_last (readLiteral_of_isLiteralChar
      (isLiteralChar_of_isQuotable hSecond) (')' :: after)) rest
    exact readLiterals_next (readLiteral_of_isLiteralChar (isLiteralChar_of_isQuotable hFirst) _) hLast

/-- The first call in a line is one of the function that its opening parenthesis follows. -/
theorem passed?_call {function line : String} {before inside : List Char}
    (hFunction : isIdentifier function = true) (hBefore : '(' ∉ before)
    (hLine : line.toList = before ++ ' ' :: (function.toList ++ '(' :: inside)) :
    passed? function line = readLiterals inside.length inside := by
  let opening := before ++ ' ' :: function.toList
  have hOpening : line.toList = opening ++ '(' :: inside := by simp [hLine, opening]
  have hNoCall : ∀ c ∈ opening, decide (c ≠ '(') = true := by
    intro c hc
    rw [decide_eq_true_eq]
    rintro rfl
    rcases List.mem_append.mp hc with hc | hc
    · exact hBefore hc
    rcases List.mem_cons.mp hc with hc | hc
    · exact absurd hc (by decide)
    · exact absurd hc (not_mem_of_isIdentifier hFunction rfl)
  have hTake : line.toList.takeWhile (· ≠ '(') = opening := by
    rw [hOpening, List.takeWhile_append_of_pos hNoCall]
    simp
  have hDrop : line.toList.drop (opening.length + 1) = inside := by
    rw [hOpening, ← List.drop_drop, List.drop_left]
    rfl
  have hWord : opening.rtakeWhile isIdentifierPart = function.toList := by
    have hParts : ∀ c ∈ function.toList.reverse, isIdentifierPart c = true := fun c hc =>
      isIdentifierPart_of_mem (isWord_of_isIdentifier hFunction) (List.mem_reverse.mp hc)
    have hBlank : isIdentifierPart ' ' = false := by decide
    rw [List.rtakeWhile, List.reverse_append, List.reverse_cons, List.append_assoc,
      List.takeWhile_append_of_pos hParts]
    simp [hBlank]
  simp only [passed?, hTake, hWord, hDrop, if_true]

end ShaderHandles.C
