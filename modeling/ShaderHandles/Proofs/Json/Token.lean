import ShaderHandles.Json.Value
import ShaderHandles.Proofs.Json.Literal

/-!
# Layouts of a document

A value tells which tokens its document has and in which order, and a text lays them out: blanks may
stand before every token and at the end, and every string may be spelled in its own way. Each step of
the readers over a mark or a key is a step to a layout of the tokens that are left.

* `Value.tokens`: the tokens of a value, with the members of every object in their order.
* `LaidOut`: the texts of some tokens.
* `LaidOut.nextElement_item`, `LaidOut.nextKey_item`: the steps of the readers.
-/

namespace ShaderHandles.Json

/-! ## Tokens -/

/-- A token of a document: a punctuation mark, or a value without parts. -/
inductive Token where
  | mark (c : Char)
  | scalar (value : Scalar)

/-- What stands before a part of a list or an object. -/
def separatorTokens (isFirst : Bool) : List Token := if isFirst then [] else [.mark ',']

mutual

/-- The tokens of a value. -/
def Value.tokens : Value → List Token
  | .scalar value => [.scalar value]
  | .list elements => .mark '[' :: (elementTokens true elements ++ [.mark ']'])
  | .object members => .mark '\x7b' :: (memberTokens true members ++ [.mark '\x7d'])

/-- The tokens of the elements of a list from some element on. -/
def elementTokens : (isFirst : Bool) → List Value → List Token
  | _, [] => []
  | isFirst, element :: rest =>
    separatorTokens isFirst ++ (element.tokens ++ elementTokens false rest)

/-- The tokens of the members of an object from some member on. -/
def memberTokens : (isFirst : Bool) → List (String × Value) → List Token
  | _, [] => []
  | isFirst, (key, value) :: rest =>
    separatorTokens isFirst ++
      (.scalar (.string key) :: .mark ':' :: (value.tokens ++ memberTokens false rest))

end

/-- The first token of a value closes nothing. -/
theorem Value.tokens_eq_cons (value : Value) :
    ∃ token tokens, value.tokens = token :: tokens ∧ token ≠ .mark ']' := by
  cases value with
  | scalar value => exact ⟨_, _, by rw [tokens], by simp⟩
  | list elements => exact ⟨_, _, by rw [tokens], by simp⟩
  | object members => exact ⟨_, _, by rw [tokens], by simp⟩

theorem length_le_length_elementTokens (isFirst : Bool) (elements : List Value) :
    elements.length ≤ (elementTokens isFirst elements).length := by
  induction elements generalizing isFirst with
  | nil => exact Nat.zero_le _
  | cons element rest ih =>
    obtain ⟨token, tokens, hTokens, -⟩ := element.tokens_eq_cons
    have hRest := ih false
    simp only [elementTokens, hTokens, List.length_append, List.length_cons]
    omega

theorem length_le_length_memberTokens (isFirst : Bool) (members : List (String × Value)) :
    members.length ≤ (memberTokens isFirst members).length := by
  induction members generalizing isFirst with
  | nil => exact Nat.zero_le _
  | cons member rest ih =>
    have hRest := ih false
    simp only [memberTokens, List.length_append, List.length_cons]
    omega

/-! ## Layouts -/

/-- The texts of a token. Numbers are left out, because nothing that a document holds is one. -/
inductive TokenForm : Token → List Char → Prop where
  | mark {c : Char} (hBlank : isBlank c = false) : TokenForm (.mark c) [c]
  | null : TokenForm (.scalar .null) ['n', 'u', 'l', 'l']
  | true : TokenForm (.scalar (.boolean true)) ['t', 'r', 'u', 'e']
  | false : TokenForm (.scalar (.boolean false)) ['f', 'a', 'l', 's', 'e']
  | string {s : String} {text : List Char} (hForm : StringForm s text) :
      TokenForm (.scalar (.string s)) ('"' :: text)

/-- The texts of some tokens. Blanks may stand before every token and at the end. -/
inductive LaidOut : List Token → List Char → Prop where
  | nil {gap : List Char} (hGap : ∀ c ∈ gap, isBlank c = true) : LaidOut [] gap
  | cons (gap : List Char) {form text : List Char} {token : Token} {tokens : List Token}
      (hGap : ∀ c ∈ gap, isBlank c = true) (hForm : TokenForm token form)
      (hRest : LaidOut tokens text) : LaidOut (token :: tokens) (gap ++ (form ++ text))

theorem skipBlanks_append {gap : List Char} (hGap : ∀ c ∈ gap, isBlank c = true)
    (text : List Char) : skipBlanks (gap ++ text) = skipBlanks text :=
  List.dropWhile_append_of_pos hGap

/-- A token begins with no blank, and with a closing bracket only if it is one. -/
theorem TokenForm.eq_cons {token : Token} {form : List Char} (hForm : TokenForm token form) :
    ∃ c rest, form = c :: rest ∧ isBlank c = Bool.false ∧ (c = ']' → token = .mark ']') := by
  cases hForm with
  | mark hBlank => exact ⟨_, _, rfl, hBlank, fun hEnd => hEnd ▸ rfl⟩
  | null => exact ⟨_, _, rfl, rfl, nofun⟩
  | true => exact ⟨_, _, rfl, rfl, nofun⟩
  | false => exact ⟨_, _, rfl, rfl, nofun⟩
  | string hForm => exact ⟨_, _, rfl, rfl, nofun⟩

namespace LaidOut

variable {token : Token} {tokens : List Token} {text : List Char} {c : Char} {s : String}

theorem length_le (hText : LaidOut tokens text) : tokens.length ≤ text.length := by
  induction hText with
  | nil hGap => exact Nat.zero_le _
  | cons gap hGap hForm hRest ih =>
    obtain ⟨c, rest, rfl, -, -⟩ := hForm.eq_cons
    simp only [List.length_cons, List.length_append]
    omega

theorem skipBlanks_nil (hText : LaidOut [] text) : skipBlanks text = [] := by
  cases hText with
  | nil hGap =>
    have hSkip := skipBlanks_append hGap []
    rwa [List.append_nil] at hSkip

/-- Behind the blanks stands the first token. -/
theorem skipBlanks_cons (hText : LaidOut (token :: tokens) text) :
    ∃ form rest, TokenForm token form ∧ skipBlanks text = form ++ rest ∧ LaidOut tokens rest := by
  cases hText with
  | @cons gap _ text _ _ hGap hForm hRest =>
    obtain ⟨c, formRest, rfl, hBlank, -⟩ := hForm.eq_cons
    refine ⟨_, text, hForm, ?_, hRest⟩
    rw [skipBlanks_append hGap, List.cons_append, skipBlanks, List.dropWhile_cons_of_neg]
    simp [hBlank]

theorem skipBlanks_mark (hText : LaidOut (.mark c :: tokens) text) :
    ∃ rest, skipBlanks text = c :: rest ∧ LaidOut tokens rest := by
  obtain ⟨form, rest, hForm, hSkip, hRest⟩ := hText.skipBlanks_cons
  cases hForm with
  | mark hBlank => exact ⟨rest, hSkip, hRest⟩

theorem skipBlanks_string (hText : LaidOut (.scalar (.string s) :: tokens) text) :
    ∃ inner rest, skipBlanks text = '"' :: inner ∧ readString inner = .ok (s, rest) ∧
      skipString inner = .ok rest ∧ LaidOut tokens rest := by
  obtain ⟨form, rest, hForm, hSkip, hRest⟩ := hText.skipBlanks_cons
  cases hForm with
  | @string _ inner hForm =>
    exact ⟨inner ++ rest, rest, hSkip, hForm.readString rest, hForm.skipString rest, hRest⟩

/-- Blanks in front may be left out. -/
theorem behind_blanks (hText : LaidOut (token :: tokens) text) :
    LaidOut (token :: tokens) (skipBlanks text) := by
  obtain ⟨form, rest, hForm, hSkip, hRest⟩ := hText.skipBlanks_cons
  rw [hSkip]
  exact .cons [] nofun hForm hRest

/-! ## Steps of the readers -/

theorem nextElement_ending (hText : LaidOut (.mark ']' :: tokens) text) (isFirst : Bool) :
    ∃ rest, nextElement isFirst text = .ok (.ending rest) ∧
      LaidOut (.mark ']' :: tokens) rest := by
  have hBehind := hText.behind_blanks
  obtain ⟨rest, hSkip, -⟩ := hText.skipBlanks_mark
  rw [hSkip] at hBehind
  exact ⟨']' :: rest, by simp only [nextElement, hSkip], hBehind⟩

/-- The step to an element, over the comma in front of it unless it is the first. -/
theorem nextElement_item {isFirst : Bool} (hToken : token ≠ .mark ']')
    (hText : LaidOut (separatorTokens isFirst ++ token :: tokens) text) :
    ∃ rest, nextElement isFirst text = .ok (.item rest) ∧ LaidOut (token :: tokens) rest := by
  -- Without blanks the element begins with a character that ends no list.
  have hItem {text : List Char} (hText : LaidOut (token :: tokens) text) :
      ∃ c rest, skipBlanks text = c :: rest ∧ c ≠ ']' ∧ LaidOut (token :: tokens) (c :: rest) := by
    have hBehind := hText.behind_blanks
    obtain ⟨form, rest, hForm, hSkip, -⟩ := hText.skipBlanks_cons
    obtain ⟨c, formRest, rfl, -, hEnd⟩ := hForm.eq_cons
    rw [hSkip] at hBehind
    exact ⟨c, formRest ++ rest, hSkip, fun hEq => hToken (hEnd hEq), hBehind⟩
  cases isFirst with
  | true =>
    obtain ⟨c, rest, hSkip, hEnd, hRest⟩ := hItem hText
    refine ⟨c :: rest, ?_, hRest⟩
    simp [nextElement, hSkip]
  | false =>
    obtain ⟨behind, hComma, hBehind⟩ := hText.skipBlanks_mark
    obtain ⟨c, rest, hSkip, hEnd, hRest⟩ := hItem hBehind
    refine ⟨c :: rest, ?_, hRest⟩
    simp [nextElement, hComma, hSkip, hEnd]

theorem nextKey_ending (hText : LaidOut (.mark '\x7d' :: tokens) text) (isFirst : Bool) :
    ∃ rest, nextKey isFirst text = .ok (.ending rest) ∧
      LaidOut (.mark '\x7d' :: tokens) rest := by
  have hBehind := hText.behind_blanks
  obtain ⟨rest, hSkip, -⟩ := hText.skipBlanks_mark
  rw [hSkip] at hBehind
  exact ⟨'\x7d' :: rest, by simp only [nextKey, hSkip], hBehind⟩

theorem readColon (hText : LaidOut (.mark ':' :: tokens) text) :
    ∃ rest, Json.readColon text = .ok rest ∧ LaidOut tokens rest := by
  obtain ⟨rest, hSkip, hRest⟩ := hText.skipBlanks_mark
  exact ⟨rest, by simp only [Json.readColon, hSkip], hRest⟩

/-- The steps to a key, over the comma in front of it unless it is the first, and behind its colon. -/
theorem nextKey_item {isFirst : Bool} {key : String}
    (hText : LaidOut (separatorTokens isFirst ++ .scalar (.string key) :: .mark ':' :: tokens)
      text) :
    ∃ inner behind rest, nextKey isFirst text = .ok (.item inner) ∧
      readString inner = .ok (key, behind) ∧ Json.readColon behind = .ok rest ∧
      LaidOut tokens rest := by
  have hKey : ∃ inner behind, nextKey isFirst text = .ok (.item inner) ∧
      readString inner = .ok (key, behind) ∧ LaidOut (.mark ':' :: tokens) behind := by
    cases isFirst with
    | true =>
      obtain ⟨inner, behind, hSkip, hRead, -, hBehind⟩ := LaidOut.skipBlanks_string hText
      exact ⟨inner, behind, by simp [nextKey, hSkip], hRead, hBehind⟩
    | false =>
      obtain ⟨rest, hComma, hRest⟩ := hText.skipBlanks_mark
      obtain ⟨inner, behind, hSkip, hRead, -, hBehind⟩ := LaidOut.skipBlanks_string hRest
      exact ⟨inner, behind, by simp [nextKey, hComma, hSkip], hRead, hBehind⟩
  obtain ⟨inner, behind, hItem, hRead, hBehind⟩ := hKey
  obtain ⟨rest, hColon, hRest⟩ := hBehind.readColon
  exact ⟨inner, behind, rest, hItem, hRead, hColon, hRest⟩

theorem closeList (hText : LaidOut (.mark ']' :: tokens) text) :
    ∃ rest, Json.closeList text = (none, rest) ∧ LaidOut tokens rest := by
  obtain ⟨rest, hSkip, hRest⟩ := hText.skipBlanks_mark
  exact ⟨rest, by simp only [Json.closeList, hSkip], hRest⟩

theorem closeObject (hText : LaidOut (.mark '\x7d' :: tokens) text) :
    ∃ rest, Json.closeObject text = (none, rest) ∧ LaidOut tokens rest := by
  obtain ⟨rest, hSkip, hRest⟩ := hText.skipBlanks_mark
  exact ⟨rest, by simp only [Json.closeObject, hSkip], hRest⟩

end LaidOut

end ShaderHandles.Json
