import ShaderHandles.C.Identifier
import ShaderHandles.C.Literal

/-!
# The characters of names and of quoted texts

An identifier is made of letters, digits and underscores, so it holds none of the characters that
lines, paths and literals are taken apart at. A text that can be quoted holds no line end.

* `not_mem_of_isIdentifier`: a character that is no part of identifiers does not occur in one.
* `not_mem_of_isQuotable`: a character that may not stand in a literal does not occur in a quotable
  text.
-/

namespace ShaderHandles.C

theorem isWord_of_isIdentifier {name : String} (hName : isIdentifier name = true) :
    isWord name.toList = true := by
  simp only [isIdentifier, Bool.and_eq_true] at hName
  exact hName.1

theorem not_mem_keywords_of_isIdentifier {name : String} (hName : isIdentifier name = true) :
    name ∉ keywords := by
  simp only [isIdentifier, Bool.and_eq_true, Bool.not_eq_true', List.contains_eq_mem,
    decide_eq_false_iff_not] at hName
  exact hName.2

theorem isIdentifierPart_of_isIdentifierStart {c : Char} (hStart : isIdentifierStart c = true) :
    isIdentifierPart c = true := by
  simp only [isIdentifierStart, isIdentifierPart, Char.isAlphanum, Bool.or_eq_true] at hStart ⊢
  rcases hStart with hAlpha | hUnderscore
  · exact Or.inl (Or.inl hAlpha)
  · exact Or.inr hUnderscore

/-- A word begins with a character that may begin an identifier and goes on with parts. -/
theorem exists_cons_of_isWord {word : List Char} (hWord : isWord word = true) :
    ∃ c rest, word = c :: rest ∧ isIdentifierStart c = true ∧ rest.all isIdentifierPart = true := by
  cases word with
  | nil => exact absurd hWord Bool.false_ne_true
  | cons c rest =>
    simp only [isWord, Bool.and_eq_true] at hWord
    exact ⟨c, rest, rfl, hWord.1, hWord.2⟩

theorem isIdentifierPart_of_mem {word : List Char} (hWord : isWord word = true) {c : Char}
    (hc : c ∈ word) : isIdentifierPart c = true := by
  obtain ⟨first, rest, rfl, hFirst, hRest⟩ := exists_cons_of_isWord hWord
  rcases List.mem_cons.mp hc with rfl | hc
  · exact isIdentifierPart_of_isIdentifierStart hFirst
  · exact List.all_eq_true.mp hRest c hc

theorem not_mem_of_isIdentifier {name : String} (hName : isIdentifier name = true) {c : Char}
    (hc : isIdentifierPart c = false) : c ∉ name.toList := by
  intro hMem
  rw [isIdentifierPart_of_mem (isWord_of_isIdentifier hName) hMem] at hc
  exact Bool.noConfusion hc

theorem ne_nil_of_isIdentifier {name : String} (hName : isIdentifier name = true) :
    name.toList ≠ [] := by
  obtain ⟨c, rest, hChars, -, -⟩ := exists_cons_of_isWord (isWord_of_isIdentifier hName)
  rw [hChars]
  exact List.cons_ne_nil c rest

theorem isLiteralChar_of_isQuotable {text : String} (hText : isQuotable text = true) :
    ∀ c ∈ text.toList, isLiteralChar c = true := by
  simp only [isQuotable, Bool.and_eq_true] at hText
  exact List.all_eq_true.mp hText.2

theorem not_mem_of_isQuotable {text : String} (hText : isQuotable text = true) {c : Char}
    (hc : isLiteralChar c = false) : c ∉ text.toList := by
  intro hMem
  rw [isLiteralChar_of_isQuotable hText c hMem] at hc
  exact Bool.noConfusion hc

/-- The letters of ASCII. -/
theorem isAlpha_iff {c : Char} :
    c.isAlpha = true ↔ ('A' ≤ c ∧ c ≤ 'Z') ∨ ('a' ≤ c ∧ c ≤ 'z') := by
  have hRanges : c.isAlpha = (decide ('A' ≤ c ∧ c ≤ 'Z') || ('a' ≤ c && c ≤ 'z')) := rfl
  simp only [hRanges, Bool.or_eq_true, Bool.and_eq_true, decide_eq_true_eq]

/-- The characters of identifiers are digits, letters and the underscore of ASCII. -/
theorem toNat_of_isIdentifierPart {c : Char} (hc : isIdentifierPart c = true) :
    (48 ≤ c.toNat ∧ c.toNat ≤ 57) ∨ (65 ≤ c.toNat ∧ c.toNat ≤ 90) ∨ c.toNat = 95 ∨
      (97 ≤ c.toNat ∧ c.toNat ≤ 122) := by
  simp only [isIdentifierPart, Char.isAlphanum, isAlpha_iff, Char.isDigit, Bool.or_eq_true,
    Bool.and_eq_true, decide_eq_true_eq, beq_iff_eq, Char.le_def, UInt32.le_iff_toNat_le,
    ge_iff_le] at hc
  rcases hc with ((⟨hLow, hHigh⟩ | ⟨hLow, hHigh⟩) | ⟨hLow, hHigh⟩) | rfl
  · exact Or.inr (Or.inl ⟨hLow, hHigh⟩)
  · exact Or.inr (Or.inr (Or.inr ⟨hLow, hHigh⟩))
  · exact Or.inl ⟨hLow, hHigh⟩
  · exact Or.inr (Or.inr (Or.inl rfl))

/-- The characters of identifiers may stand in a literal. -/
theorem isLiteralChar_of_isIdentifierPart {c : Char} (hc : isIdentifierPart c = true) :
    isLiteralChar c = true := by
  have hRange := toNat_of_isIdentifierPart hc
  have hQuote : c ≠ '"' := by
    rintro rfl
    exact absurd hc (by decide)
  have hBackslash : c ≠ '\\' := by
    rintro rfl
    exact absurd hc (by decide)
  have hControl : isControl c = false := by
    simp only [isControl, Bool.or_eq_false_iff, Bool.and_eq_false_iff, decide_eq_false_iff_not,
      UInt32.le_iff_toNat_le]
    change ¬ c.toNat ≤ 31 ∧ (¬ 127 ≤ c.toNat ∨ ¬ c.toNat ≤ 159)
    omega
  simp [isLiteralChar, hQuote, hBackslash, hControl]

theorem isQuotable_of_isIdentifier {name : String} (hName : isIdentifier name = true) :
    isQuotable name = true := by
  simp only [isQuotable, Bool.and_eq_true, Bool.not_eq_true', List.isEmpty_eq_false_iff,
    List.all_eq_true]
  exact ⟨ne_nil_of_isIdentifier hName, fun c hc =>
    isLiteralChar_of_isIdentifierPart (isIdentifierPart_of_mem (isWord_of_isIdentifier hName) hc)⟩

end ShaderHandles.C
