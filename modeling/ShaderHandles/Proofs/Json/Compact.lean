import ShaderHandles.Proofs.Json.Token

/-!
# The compact form is a layout

The compact form of a value has no blanks and spells every string in the shortest way. It is one of
the layouts of the tokens of the value, unless the value holds a number.

* `Value.write_eq_flatMap`: the compact form is that of the tokens, one after the other.
* `Value.IsSpelled`: the values without numbers.
* `Value.laidOut_text`: their compact forms are layouts.
-/

namespace ShaderHandles.Json

def Token.write : Token → List Char
  | mark c => [c]
  | scalar value => value.write

theorem withCommas_cons (text : List Char) (rest : List (List Char)) :
    withCommas (text :: rest) = text ++ rest.flatMap (',' :: ·) := by
  induction rest generalizing text with
  | nil => rw [withCommas, List.flatMap_nil, List.append_nil]
  | cons next rest ih =>
    rw [withCommas, ih, List.flatMap_cons, List.cons_append]
    exact List.cons_ne_nil next rest

/-- Texts that follow others, or that are the first. -/
def followed (isFirst : Bool) (texts : List (List Char)) : List Char :=
  if isFirst then withCommas texts else texts.flatMap (',' :: ·)

theorem followed_cons (isFirst : Bool) (text : List Char) (rest : List (List Char)) :
    followed isFirst (text :: rest) =
      (separatorTokens isFirst).flatMap Token.write ++ (text ++ followed false rest) := by
  cases isFirst with
  | true => exact withCommas_cons text rest
  | false => rfl

mutual

theorem Value.write_eq_flatMap (value : Value) : value.write = value.tokens.flatMap Token.write := by
  cases value with
  | scalar value => simp [Value.write, Value.tokens, Token.write]
  | list elements =>
    have hElements := followed_writeElements true elements
    simp only [followed, if_true] at hElements
    simp [Value.write, Value.tokens, Token.write, hElements]
  | object members =>
    have hMembers := followed_writeMembers true members
    simp only [followed, if_true] at hMembers
    simp [Value.write, Value.tokens, Token.write, hMembers]

theorem followed_writeElements (isFirst : Bool) (elements : List Value) :
    followed isFirst (writeElements elements) =
      (elementTokens isFirst elements).flatMap Token.write := by
  cases elements with
  | nil => cases isFirst <;> rfl
  | cons element rest =>
    rw [writeElements, followed_cons, elementTokens, List.flatMap_append, List.flatMap_append,
      element.write_eq_flatMap, followed_writeElements false rest]

theorem followed_writeMembers (isFirst : Bool) (members : List (String × Value)) :
    followed isFirst (writeMembers members) =
      (memberTokens isFirst members).flatMap Token.write := by
  cases members with
  | nil => cases isFirst <;> rfl
  | cons member rest =>
    obtain ⟨key, value⟩ := member
    rw [writeMembers, followed_cons, memberTokens, value.write_eq_flatMap,
      followed_writeMembers false rest]
    simp [Token.write, Scalar.write]

end

/-! ## Values without numbers -/

/-- A token is no number, and its mark is no blank. -/
def Token.isSpelled : Token → Bool
  | mark c => !isBlank c
  | scalar (.number _) => false
  | scalar _ => true

theorem Token.tokenForm_write {token : Token} (hToken : token.isSpelled = true) :
    TokenForm token token.write := by
  cases token with
  | mark c => exact .mark (by simpa [isSpelled] using hToken)
  | scalar value =>
    cases value with
    | null => exact .null
    | boolean b => cases b <;> constructor
    | number n => exact nomatch hToken
    | string s => exact .string (stringForm_body s)

theorem isSpelled_of_mem_separatorTokens {isFirst : Bool} {token : Token}
    (hToken : token ∈ separatorTokens isFirst) : token.isSpelled = true := by
  cases isFirst with
  | true => exact absurd hToken List.not_mem_nil
  | false => rw [List.mem_singleton.mp hToken]; rfl

/-- No token of a value is a number. -/
def Value.IsSpelled (value : Value) : Prop := ∀ token ∈ value.tokens, token.isSpelled = true

instance (value : Value) : Decidable value.IsSpelled :=
  inferInstanceAs (Decidable (∀ token ∈ value.tokens, token.isSpelled = true))

namespace Value

theorem isSpelled_string (s : String) : (Value.string s).IsSpelled := by
  intro token hToken
  rw [List.mem_singleton.mp hToken]
  rfl

theorem isSpelled_boolean (b : Bool) : (Value.boolean b).IsSpelled := by
  intro token hToken
  rw [List.mem_singleton.mp hToken]
  rfl

theorem isSpelled_of_mem_elementTokens {isFirst : Bool} {elements : List Value} {token : Token}
    (hElements : ∀ element ∈ elements, element.IsSpelled)
    (hToken : token ∈ elementTokens isFirst elements) : token.isSpelled = true := by
  induction elements generalizing isFirst with
  | nil => exact absurd hToken List.not_mem_nil
  | cons element rest ih =>
    rw [List.forall_mem_cons] at hElements
    rw [elementTokens, List.mem_append, List.mem_append] at hToken
    rcases hToken with hToken | hToken | hToken
    · exact isSpelled_of_mem_separatorTokens hToken
    · exact hElements.1 token hToken
    · exact ih hElements.2 hToken

theorem isSpelled_list {elements : List Value}
    (hElements : ∀ element ∈ elements, element.IsSpelled) : (Value.list elements).IsSpelled := by
  intro token hToken
  rw [tokens, List.mem_cons, List.mem_append, List.mem_singleton] at hToken
  rcases hToken with rfl | hToken | rfl
  · rfl
  · exact isSpelled_of_mem_elementTokens hElements hToken
  · rfl

theorem isSpelled_texts (names : List String) : (Value.list (names.map .string)).IsSpelled := by
  apply isSpelled_list
  intro element hElement
  obtain ⟨s, -, rfl⟩ := List.mem_map.mp hElement
  exact isSpelled_string s

theorem isSpelled_of_mem_memberTokens {isFirst : Bool} {members : List (String × Value)}
    {token : Token} (hMembers : ∀ member ∈ members, member.2.IsSpelled)
    (hToken : token ∈ memberTokens isFirst members) : token.isSpelled = true := by
  induction members generalizing isFirst with
  | nil => exact absurd hToken List.not_mem_nil
  | cons member rest ih =>
    rw [List.forall_mem_cons] at hMembers
    rw [memberTokens, List.mem_append, List.mem_cons, List.mem_cons, List.mem_append] at hToken
    rcases hToken with hToken | rfl | rfl | hToken | hToken
    · exact isSpelled_of_mem_separatorTokens hToken
    · rfl
    · rfl
    · exact hMembers.1 token hToken
    · exact ih hMembers.2 hToken

theorem isSpelled_object {members : List (String × Value)}
    (hMembers : ∀ member ∈ members, member.2.IsSpelled) : (Value.object members).IsSpelled := by
  intro token hToken
  rw [tokens, List.mem_cons, List.mem_append, List.mem_singleton] at hToken
  rcases hToken with rfl | hToken | rfl
  · rfl
  · exact isSpelled_of_mem_memberTokens hMembers hToken
  · rfl

end Value

/-! ## Layouts -/

/-- Tokens in their compact form, each behind some blanks. -/
def spaced (parts : List (List Char × Token)) : List Char :=
  parts.flatMap fun part => part.1 ++ part.2.write

theorem laidOut_spaced {parts : List (List Char × Token)}
    (hBlanks : ∀ part ∈ parts, ∀ c ∈ part.1, isBlank c = true)
    (hTokens : ∀ part ∈ parts, part.2.isSpelled = true) :
    LaidOut (parts.map Prod.snd) (spaced parts) := by
  induction parts with
  | nil => exact .nil nofun
  | cons part parts ih =>
    rw [List.forall_mem_cons] at hBlanks hTokens
    have hRest := ih hBlanks.2 hTokens.2
    rw [spaced, List.flatMap_cons, List.append_assoc]
    exact .cons part.1 hBlanks.1 (Token.tokenForm_write hTokens.1) hRest

theorem Value.laidOut_text {value : Value} (hValue : value.IsSpelled) :
    LaidOut value.tokens value.text.toList := by
  let parts : List (List Char × Token) := value.tokens.map ([], ·)
  have hBlanks : ∀ part ∈ parts, ∀ c ∈ part.1, isBlank c = true := by simp [parts]
  have hSpelled : ∀ part ∈ parts, part.2.isSpelled = true := by
    intro part hPart
    obtain ⟨token, hToken, rfl⟩ := List.mem_map.mp hPart
    exact hValue token hToken
  have hTokens : parts.map Prod.snd = value.tokens := by simp [parts, Function.comp_def]
  have hText : value.text.toList = spaced parts := by
    rw [text, String.toList_ofList, write_eq_flatMap, spaced, List.flatMap_map]
    rfl
  rw [hText, ← hTokens]
  exact laidOut_spaced hBlanks hSpelled

end ShaderHandles.Json
