import ShaderHandles.Json.Literal

/-!
# Strings in all their spellings

A character of a string may be written as itself, by a letter after a backslash, or by the
hexadecimal digits of its UTF-16 units. The reader takes every such form for the character, and what
skips a string steps over it.

* `EscapeForm`, `CharForm`, `StringForm`: the texts that stand for a character and for a string.
* `StringForm.readString`, `StringForm.skipString`: every form of a string is read as the string and
  is skipped.
-/

namespace ShaderHandles.Json

/-! ## Forms -/

/-- The letters that stand for a character after a backslash. -/
def escapeLetters : List (Char × Char) :=
  [('"', '"'), ('\\', '\\'), ('/', '/'), ('b', '\x08'), ('f', '\x0c'), ('n', '\n'), ('r', '\r'),
    ('t', '\t')]

/-- Four hexadecimal digits, in either case, and the UTF-16 unit that they give. -/
structure UnitForm (unit : Nat) (digits : List Char) : Prop where
  length : digits.length = 4
  value : Text.hexNumber? digits = some unit

/-- The texts that stand for a character after a backslash. -/
inductive EscapeForm : Char → List Char → Prop where
  | letter {c letter : Char} (hLetter : (letter, c) ∈ escapeLetters) : EscapeForm c [letter]
  | unit {c : Char} {digits : List Char} (hUnit : UnitForm c.toNat digits) :
      EscapeForm c ('u' :: digits)
  /-- A character above U+FFFF by its two units. -/
  | pair {c : Char} {high low : Nat} {first second : List Char} (hHigh : UnitForm high first)
      (hHighRange : 0xd800 ≤ high ∧ high ≤ 0xdbff) (hLow : UnitForm low second)
      (hLowRange : 0xdc00 ≤ low ∧ low ≤ 0xdfff)
      (hChar : c.toNat = 0x10000 + (high - 0xd800) * 0x400 + (low - 0xdc00)) :
      EscapeForm c ('u' :: first ++ '\\' :: 'u' :: second)

/-- The texts that stand for a character of a string. -/
inductive CharForm : Char → List Char → Prop where
  | plain {c : Char} (hQuote : c ≠ '"') (hBackslash : c ≠ '\\') (hControl : ¬ c.toNat < 0x20) :
      CharForm c [c]
  | escape {c : Char} {escape : List Char} (hEscape : EscapeForm c escape) :
      CharForm c ('\\' :: escape)

/-- The texts that stand for characters and the quote behind them. -/
inductive BodyForm : List Char → List Char → Prop where
  | nil : BodyForm [] ['"']
  | cons {c : Char} {chars form text : List Char} (hForm : CharForm c form)
      (hRest : BodyForm chars text) : BodyForm (c :: chars) (form ++ text)

/-- The texts that stand for a string, after its opening quote. -/
def StringForm (s : String) (text : List Char) : Prop := BodyForm s.toList text

/-! ## Escapes -/

theorem UnitForm.readHex4 {unit : Nat} {digits : List Char} (hForm : UnitForm unit digits)
    (rest : List Char) : Json.readHex4 (digits ++ rest) = .ok (unit, rest) := by
  match digits, hForm with
  | [a, b, c, d], ⟨_, hValue⟩ => simp only [List.cons_append, List.nil_append, Json.readHex4, hValue]

theorem escapedChar?_of_mem : ∀ pair ∈ escapeLetters,
    escapedChar? pair.1 = some pair.2 ∧ (pair.1 == 'u') = false := by
  decide

/-- The number of a character is that of no unit of a pair. -/
theorem not_half (c : Char) : c.toNat < 0xd800 ∨ 0xdfff < c.toNat := by
  rcases c.valid with hLow | ⟨hHigh, -⟩
  · exact .inl hLow
  · exact .inr hHigh

namespace EscapeForm

theorem readEscape {c : Char} {escape : List Char} (hForm : EscapeForm c escape)
    (rest : List Char) : Json.readEscape (escape ++ rest) = .ok (c, rest) := by
  cases hForm with
  | letter hLetter =>
    obtain ⟨hEscaped, hNumber⟩ := escapedChar?_of_mem _ hLetter
    simp only [List.cons_append, List.nil_append, Json.readEscape, hNumber, hEscaped,
      Bool.false_eq_true, if_false]
  | unit hUnit =>
    have hLow : ¬ (0xdc00 ≤ c.toNat ∧ c.toNat ≤ 0xdfff) := by
      have := not_half c
      omega
    have hSingle : c.toNat < 0xd800 ∨ 0xdbff < c.toNat := by
      have := not_half c
      omega
    simp only [List.cons_append, Json.readEscape, beq_self_eq_true, if_true, readHexEscape,
      hUnit.readHex4, bind, Except.bind, if_neg hLow, if_pos hSingle, Char.ofNat_toNat]
    rfl
  | @pair high low first second hHigh hHighRange hLow hLowRange hChar =>
    have hText : 'u' :: first ++ '\\' :: 'u' :: second ++ rest =
        'u' :: (first ++ '\\' :: 'u' :: (second ++ rest)) := by simp
    have hNotLow : ¬ (0xdc00 ≤ high ∧ high ≤ 0xdfff) := by omega
    have hNotSingle : ¬ (high < 0xd800 ∨ 0xdbff < high) := by omega
    have hNotHigh : ¬ (low < 0xdc00 ∨ 0xdfff < low) := by omega
    rw [hText]
    simp only [Json.readEscape, beq_self_eq_true, if_true, readHexEscape, hHigh.readHex4, bind,
      Except.bind, if_neg hNotLow, if_neg hNotSingle, readPairMark, hLow.readHex4,
      if_neg hNotHigh, ← hChar, Char.ofNat_toNat]
    rfl

end EscapeForm

/-! ## Reading -/

/-- The reader takes the form of a character in one step and goes on behind it. -/
theorem CharForm.readChars {c : Char} {form text rest chars : List Char} {budget : Nat}
    (hForm : CharForm c form) (hRead : Json.readChars budget text = .ok (chars, rest)) :
    Json.readChars (budget + 1) (form ++ text) = .ok (c :: chars, rest) := by
  cases hForm with
  | plain hQuote hBackslash hControl =>
    simp only [List.cons_append, List.nil_append, Json.readChars, beq_iff_eq, if_neg hQuote,
      if_neg hBackslash, if_neg hControl, hRead, bind, Except.bind]
    rfl
  | escape hEscape =>
    have hBackslash : ('\\' == '"') = false := rfl
    simp only [List.cons_append, Json.readChars, hBackslash, Bool.false_eq_true, if_false,
      beq_self_eq_true, if_true, hEscape.readEscape, hRead, bind, Except.bind]
    rfl

theorem skipEscape_letter {c letter : Char} (hLetter : (letter, c) ∈ escapeLetters)
    (rest : List Char) : skipEscape (letter :: rest) = .ok rest := by
  obtain ⟨hEscaped, hNumber⟩ := escapedChar?_of_mem _ hLetter
  simp only [skipEscape, hNumber, hEscaped, Bool.false_eq_true, if_false, Option.isSome_some,
    if_true]

theorem skipEscape_unit {unit : Nat} {digits : List Char} (hUnit : UnitForm unit digits)
    (rest : List Char) : skipEscape ('u' :: (digits ++ rest)) = .ok rest := by
  simp only [skipEscape, beq_self_eq_true, if_true, hUnit.readHex4]
  rfl

theorem skipChars_escape {budget : Nat} {escape rest : List Char}
    (hEscape : skipEscape escape = .ok rest) :
    skipChars (budget + 1) ('\\' :: escape) = skipChars budget rest := by
  have hBackslash : ('\\' == '"') = false := rfl
  simp only [skipChars, hBackslash, Bool.false_eq_true, if_false, beq_self_eq_true, if_true,
    hEscape, bind, Except.bind]

namespace BodyForm

variable {chars text : List Char}

theorem length_lt (hForm : BodyForm chars text) : chars.length < text.length := by
  induction hForm with
  | nil => exact Nat.one_pos
  | @cons c chars form text hForm hRest ih =>
    have hOne : 0 < form.length := by cases hForm <;> exact Nat.succ_pos _
    simp only [List.length_cons, List.length_append]
    omega

theorem readChars (hForm : BodyForm chars text) (rest : List Char) :
    ∀ budget, chars.length < budget →
      Json.readChars budget (text ++ rest) = .ok (chars, rest) := by
  induction hForm with
  | nil =>
    intro budget hBudget
    obtain ⟨budget, rfl⟩ := Nat.exists_eq_add_one.mpr hBudget
    rfl
  | cons hForm hRest ih =>
    intro budget hBudget
    obtain ⟨budget, rfl⟩ := Nat.exists_eq_add_one.mpr (Nat.zero_lt_of_lt hBudget)
    rw [List.append_assoc]
    exact hForm.readChars (ih budget (Nat.lt_of_succ_lt_succ hBudget))

/-- What skips a string takes a pair in two steps, so its budget covers the text. -/
theorem skipChars (hForm : BodyForm chars text) (rest : List Char) :
    ∀ budget, text.length ≤ budget → Json.skipChars budget (text ++ rest) = .ok rest := by
  induction hForm with
  | nil =>
    intro budget hBudget
    obtain ⟨budget, rfl⟩ := Nat.exists_eq_add_one.mpr hBudget
    rfl
  | @cons c chars form text hForm hRest ih =>
    intro budget hBudget
    rw [List.append_assoc]
    cases hForm with
    | plain hQuote hBackslash hControl =>
      obtain ⟨budget, rfl⟩ := Nat.exists_eq_add_one.mpr (Nat.zero_lt_of_lt hBudget)
      have hNext := ih budget (by simpa using hBudget)
      simp only [List.cons_append, List.nil_append, Json.skipChars, beq_iff_eq, if_neg hQuote,
        if_neg hBackslash, if_neg hControl, hNext]
    | escape hEscape =>
      cases hEscape with
      | letter hLetter =>
        obtain ⟨budget, rfl⟩ := Nat.exists_eq_add_one.mpr (Nat.zero_lt_of_lt hBudget)
        have hNext := ih budget (by simp at hBudget; omega)
        rw [List.cons_append, List.singleton_append,
          skipChars_escape (skipEscape_letter hLetter _), hNext]
      | unit hUnit =>
        obtain ⟨budget, rfl⟩ := Nat.exists_eq_add_one.mpr (Nat.zero_lt_of_lt hBudget)
        have hNext := ih budget (by simp at hBudget; omega)
        rw [List.cons_append, List.cons_append, skipChars_escape (skipEscape_unit hUnit _), hNext]
      | @pair high low first second hHigh _ hLow _ _ =>
        obtain ⟨budget, rfl⟩ : ∃ rest, budget = rest + 1 + 1 :=
          ⟨budget - 2, by simp at hBudget; omega⟩
        have hNext := ih budget (by simp at hBudget; omega)
        simp only [List.cons_append, List.append_assoc]
        rw [skipChars_escape (skipEscape_unit hHigh _), skipChars_escape (skipEscape_unit hLow _),
          hNext]

end BodyForm

namespace StringForm

variable {s : String} {text : List Char}

theorem readString (hForm : StringForm s text) (rest : List Char) :
    Json.readString (text ++ rest) = .ok (s, rest) := by
  have hLength : s.toList.length < (text ++ rest).length + 1 := by
    have hChars := BodyForm.length_lt hForm
    rw [List.length_append]
    omega
  simp only [Json.readString, BodyForm.readChars hForm rest _ hLength, bind, Except.bind,
    String.ofList_toList]
  rfl

theorem skipString (hForm : StringForm s text) (rest : List Char) :
    Json.skipString (text ++ rest) = .ok rest := by
  refine BodyForm.skipChars hForm rest _ ?_
  rw [List.length_append]
  omega

end StringForm

/-! ## The form that is written -/

/-- The two last digits of an escape are the digits of a control character. -/
theorem unitForm_control : ∀ n < 0x20,
    Text.hexNumber? ['0', '0', hexDigit (n / 16), hexDigit (n % 16)] = some n := by
  decide

theorem charForm_encodeChar (c : Char) : CharForm c (encodeChar c) := by
  -- Seven characters have a letter of their own.
  by_cases hLetter : c ∈ ['"', '\\', '\x08', '\t', '\n', '\x0c', '\r']
  · simp only [List.mem_cons, List.not_mem_nil, or_false] at hLetter
    rcases hLetter with rfl | rfl | rfl | rfl | rfl | rfl | rfl <;>
      exact .escape (.letter (by decide))
  · simp only [List.mem_cons, List.not_mem_nil, or_false, not_or] at hLetter
    obtain ⟨hQuote, hBackslash, hBack, hTab, hLine, hPage, hReturn⟩ := hLetter
    by_cases hControl : c.toNat < 0x20
    · have hForm : encodeChar c =
          ['\\', 'u', '0', '0', hexDigit (c.toNat / 16), hexDigit (c.toNat % 16)] := by
        simp [encodeChar, *]
      rw [hForm]
      exact .escape (.unit ⟨rfl, unitForm_control _ hControl⟩)
    · have hForm : encodeChar c = [c] := by simp [encodeChar, *]
      rw [hForm]
      exact .plain hQuote hBackslash hControl

/-- A string as it is written, after its opening quote. -/
def body (s : String) : List Char := s.toList.flatMap encodeChar ++ ['"']

theorem stringForm_body (s : String) : StringForm s (body s) := by
  have hChars : ∀ chars : List Char, BodyForm chars (chars.flatMap encodeChar ++ ['"']) := by
    intro chars
    induction chars with
    | nil => exact .nil
    | cons c chars ih =>
      rw [List.flatMap_cons, List.append_assoc]
      exact .cons (charForm_encodeChar c) ih
  exact hChars s.toList

end ShaderHandles.Json
