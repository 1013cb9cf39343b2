import ShaderHandles.Proofs.Json.Token
import ShaderHandles.Proofs.Table

/-!
# What the readers make of a layout

A reader of one kind of values gives the same for every layout of a value: the value in the form that
is wanted, or a stop if it is of another kind. What stands behind the value is left, again as a layout
of its tokens, so a reader of a list or an object is described part by part.

* `Outcome`, `Reads`: what a reader gives, and that it gives this for every layout.
* `Reads.readAll_eq_ok`, `Reads.readAll_eq_error`: a whole document.
* `reads_readStringAs`, `reads_readFlag`, `reads_readList`: values of one kind.
* `reads_readValue`: any value, which is refused only if it is too deep.
-/

namespace ShaderHandles.Json

/-- What a reader gives before the tokens `left`: a value and a layout of these tokens, or a stop. -/
inductive Outcome {α : Type} (left : List Token) : Option α → Except Stop (Left α) → Prop where
  | taken {a : α} {rest : List Char} (hRest : LaidOut left rest) :
      Outcome left (some a) (.ok (a, rest))
  | stopped (stop : Stop) : Outcome left none (.error stop)

/-- A reader gives `result` for every layout of some tokens, whatever tokens stand behind them. -/
def Reads {α : Type} (read : List Char → Except Stop (Left α)) (tokens : List Token)
    (result : Option α) : Prop :=
  ∀ ⦃left : List Token⦄ ⦃text : List Char⦄, LaidOut (tokens ++ left) text →
    Outcome left result (read text)

namespace Outcome

variable {α β : Type} {left next : List Token}

/-- What has been taken, and a layout of what is left. -/
theorem eq_ok {a : α} {read : Except Stop (Left α)} (hRead : Outcome left (some a) read) :
    ∃ rest, read = .ok (a, rest) ∧ LaidOut left rest := by
  cases hRead with
  | taken hRest => exact ⟨_, rfl, hRest⟩

theorem bind {result : Option α} {read : Except Stop (Left α)} {f : α → Option β}
    {go : Left α → Except Stop (Left β)} (hRead : Outcome left result read)
    (hGo : ∀ a rest, LaidOut left rest → Outcome next (f a) (go (a, rest))) :
    Outcome next (result >>= f) (read >>= go) := by
  cases hRead with
  | taken hRest => exact hGo _ _ hRest
  | stopped stop => exact .stopped stop

theorem map {result : Option α} {read : Except Stop (Left α)} (f : α → β)
    (hRead : Outcome left result read) :
    Outcome left (result >>= fun a => pure (f a)) (read >>= fun p => pure (f p.1, p.2)) := by
  cases hRead with
  | taken hRest => exact .taken hRest
  | stopped stop => exact .stopped stop

theorem inBrackets {result : Option α} {read : List Char → Except Stop (Left α)} {text : List Char}
    (hRead : Outcome (.mark ']' :: left) result (read text)) :
    Outcome left result (Json.inBrackets read text) := by
  unfold Json.inBrackets
  generalize read text = outcome at hRead
  cases hRead with
  | taken hRest =>
    obtain ⟨rest, hClose, hLeft⟩ := hRest.closeList
    simp only [enclosed, hClose]
    exact .taken hLeft
  | stopped stop => cases stop <;> exact .stopped _

theorem inBraces {result : Option α} {read : List Char → Except Stop (Left α)} {text : List Char}
    (hRead : Outcome (.mark '\x7d' :: left) result (read text)) :
    Outcome left result (Json.inBraces read text) := by
  unfold Json.inBraces
  generalize read text = outcome at hRead
  cases hRead with
  | taken hRest =>
    obtain ⟨rest, hClose, hLeft⟩ := hRest.closeObject
    simp only [enclosed, hClose]
    exact .taken hLeft
  | stopped stop => cases stop <;> exact .stopped _

end Outcome

section

variable {α : Type} {read : List Char → Except Stop (Left α)} {tokens : List Token} {source : String}

/-- Behind the value of a document stand only blanks. -/
theorem Reads.readAll_eq_ok {a : α} (hReads : Reads read tokens (some a))
    (hSource : LaidOut tokens source.toList) : readAll read source = .ok a := by
  have hRead : Outcome [] (some a) (read source.toList) := hReads (by rwa [List.append_nil])
  obtain ⟨rest, hValue, hRest⟩ := hRead.eq_ok
  simp only [readAll, hValue, hRest.skipBlanks_nil]

theorem Reads.readAll_eq_error (hReads : Reads read tokens none)
    (hSource : LaidOut tokens source.toList) : ∃ fault, readAll read source = .error fault := by
  have hRead : Outcome [] none (read source.toList) := hReads (by rwa [List.append_nil])
  simp only [readAll]
  generalize read source.toList = outcome at hRead
  cases hRead with
  | stopped stop => exact ⟨stop.fault source.toList, rfl⟩

end

/-! ## Strings and truth values -/

/-- The string that a value is. -/
def Value.asText? : Value → Option String
  | .scalar (.string s) => some s
  | _ => none

theorem Value.asText?_eq_some_iff {value : Value} {s : String} :
    value.asText? = some s ↔ value = .string s := by
  unfold asText? string
  split <;> simp_all

theorem wrongKind_stops {α : Type} (wanted : Wanted) (text : List Char) :
    ∃ stop, (wrongKind wanted text : Except Stop α) = .error stop := by
  unfold wrongKind
  split
  · exact ⟨_, rfl⟩
  · exact ⟨_, rfl⟩
  · cases readScalar text with
    | error stop => exact ⟨stop, rfl⟩
    | ok p => exact ⟨_, rfl⟩

/-- A text that begins otherwise than a string is refused. -/
theorem readStringAs_stops (wanted : Wanted) {text rest : List Char} {c : Char}
    (hSkip : skipBlanks text = c :: rest) (hQuote : c ≠ '"') :
    ∃ stop, readStringAs wanted text = .error stop := by
  simp only [readStringAs, hSkip]
  split
  · next hEq => exact absurd (List.head_eq_of_cons_eq hEq) hQuote
  · exact wrongKind_stops wanted _

/-- Only a string begins with a quote. -/
theorem LaidOut.head_value {value : Value} {left : List Token} {text : List Char}
    (hText : LaidOut (value.tokens ++ left) text) :
    ∃ c rest, skipBlanks text = c :: rest ∧ (c = '"' → value.asText?.isSome) := by
  cases value with
  | list elements =>
    rw [Value.tokens] at hText
    obtain ⟨rest, hSkip, -⟩ := LaidOut.skipBlanks_mark hText
    exact ⟨_, rest, hSkip, nofun⟩
  | object members =>
    rw [Value.tokens] at hText
    obtain ⟨rest, hSkip, -⟩ := LaidOut.skipBlanks_mark hText
    exact ⟨_, rest, hSkip, nofun⟩
  | scalar value =>
    rw [Value.tokens] at hText
    obtain ⟨form, rest, hForm, hSkip, -⟩ := LaidOut.skipBlanks_cons hText
    cases hForm with
    | null => exact ⟨_, _, hSkip, nofun⟩
    | true => exact ⟨_, _, hSkip, nofun⟩
    | false => exact ⟨_, _, hSkip, nofun⟩
    | string hForm => exact ⟨_, _, hSkip, fun _ => rfl⟩

theorem reads_readStringAs (wanted : Wanted) (value : Value) :
    Reads (readStringAs wanted) value.tokens value.asText? := by
  intro left text hText
  cases hValue : value.asText? with
  | some s =>
    rw [Value.asText?_eq_some_iff.mp hValue, Value.string, Value.tokens] at hText
    obtain ⟨inner, rest, hSkip, hRead, -, hRest⟩ := LaidOut.skipBlanks_string hText
    have hString : readStringAs wanted text = .ok (s, rest) := by
      simp only [readStringAs, hSkip, hRead]
    rw [hString]
    exact .taken hRest
  | none =>
    obtain ⟨c, rest, hSkip, hQuote⟩ := hText.head_value
    have hOther : c ≠ '"' := by
      intro hEq
      have hSome := hQuote hEq
      rw [hValue] at hSome
      exact nomatch hSome
    obtain ⟨stop, hStop⟩ := readStringAs_stops wanted hSkip hOther
    rw [hStop]
    exact .stopped stop

theorem reads_readFlag (b : Bool) : Reads readFlag (Value.boolean b).tokens (some b) := by
  intro left text hText
  rw [Value.boolean, Value.tokens] at hText
  obtain ⟨form, rest, hForm, hSkip, hRest⟩ := LaidOut.skipBlanks_cons hText
  cases hForm with
  | true =>
    have hRead : readFlag text = .ok (true, rest) := by
      simp only [readFlag, hSkip]
      rfl
    rw [hRead]
    exact .taken hRest
  | false =>
    have hRead : readFlag text = .ok (false, rest) := by
      simp only [readFlag, hSkip]
      rfl
    rw [hRead]
    exact .taken hRest

/-! ## Lists -/

section

variable {α : Type} {read : List Char → Except Stop (Left α)} {result : Value → Option α}

/-- The elements of a list up to its closing bracket. The induction is on the elements that are left,
so the statement covers a reader at the first of them and a reader behind one. -/
theorem outcome_readElements {elements : List Value} {left : List Token}
    (hReads : ∀ element ∈ elements, Reads read element.tokens (result element)) :
    ∀ isFirst budget text, elements.length < budget →
      LaidOut (elementTokens isFirst elements ++ .mark ']' :: left) text →
      Outcome (.mark ']' :: left) (elements.mapM result) (readElements read budget isFirst text) := by
  induction elements with
  | nil =>
    intro isFirst budget text hBudget hText
    obtain ⟨budget, rfl⟩ := Nat.exists_eq_add_one.mpr hBudget
    obtain ⟨rest, hEnding, hRest⟩ := LaidOut.nextElement_ending hText isFirst
    simp only [readElements, hEnding, Except.bind, bind]
    exact .taken hRest
  | cons element elements ih =>
    intro isFirst budget text hBudget hText
    obtain ⟨budget, rfl⟩ := Nat.exists_eq_add_one.mpr (Nat.zero_lt_of_lt hBudget)
    obtain ⟨token, tokens, hTokens, hToken⟩ := element.tokens_eq_cons
    have hLater := ih (fun other hOther => hReads other (List.mem_cons_of_mem element hOther)) false
      budget
    have hFirst := hReads element List.mem_cons_self
    rw [elementTokens, hTokens] at hText
    simp only [List.append_assoc, List.cons_append] at hText
    obtain ⟨rest, hItem, hRest⟩ := LaidOut.nextElement_item hToken hText
    rw [← List.cons_append, ← hTokens] at hRest
    have hStep : readElements read (budget + 1) isFirst text = read rest >>= fun p =>
        readElements read budget false p.2 >>= fun q => pure (p.1 :: q.1, q.2) := by
      simp only [readElements, hItem, bind, Except.bind]
    rw [List.mapM_cons, hStep]
    refine (hFirst hRest).bind fun a behind hBehind => ?_
    exact (hLater behind (by simpa using hBudget) hBehind).map (a :: ·)

/-- The budget of a reader of a list is greater than the number of the elements. -/
theorem length_lt_budget_of_elements {elements : List Value} {left : List Token} {text : List Char}
    (hText : LaidOut (elementTokens true elements ++ left) text) :
    elements.length < text.length + 1 := by
  have hTokens := hText.length_le
  have hElements := length_le_length_elementTokens true elements
  simp only [List.length_append] at hTokens
  omega

theorem reads_readList {elements : List Value}
    (hReads : ∀ element ∈ elements, Reads read element.tokens (result element)) :
    Reads (readList read) (Value.list elements).tokens (elements.mapM result) := by
  intro left text hText
  rw [Value.tokens] at hText
  simp only [List.append_assoc, List.cons_append, List.nil_append] at hText
  obtain ⟨rest, hSkip, hRest⟩ := LaidOut.skipBlanks_mark hText
  have hBudget := length_lt_budget_of_elements hRest
  have hList : readList read text = inBrackets (readElements read (rest.length + 1) true) rest := by
    simp only [readList, hSkip]
  rw [hList]
  exact (outcome_readElements hReads true _ rest hBudget hRest).inBrackets

end

/-! ## Any value -/

theorem outcome_readValue_scalar {value : Scalar} {left : List Token} {text : List Char}
    (room : Nat) (hText : LaidOut (.scalar value :: left) text) :
    Outcome left (some (.scalar value)) (readValue room text) := by
  obtain ⟨form, rest, hForm, hSkip, hRest⟩ := hText.skipBlanks_cons
  have hRead : readValue room text =
      readScalar (form ++ rest) >>= fun p => pure (.scalar p.1, p.2) := by
    unfold readValue
    rw [hSkip]
    cases hForm with
    | null => cases room <;> rfl
    | true => cases room <;> rfl
    | false => cases room <;> rfl
    | string hForm => cases room <;> rfl
  rw [hRead]
  cases hForm with
  | null => exact .taken hRest
  | true => exact .taken hRest
  | false => exact .taken hRest
  | @string s text hForm =>
    have hScalar : readScalar ('"' :: text ++ rest) = .ok (.string s, rest) := by
      change (readString (text ++ rest) >>= fun p => pure (Scalar.string p.1, p.2)) = _
      rw [hForm.readString]
      rfl
    rw [hScalar]
    exact .taken hRest

/-- A value if at most `room` lists and objects stand inside of each other in it. -/
def Value.within? : (room : Nat) → Value → Option Value
  | _, .scalar value => some (.scalar value)
  | 0, _ => none
  | room + 1, .list elements => do return .list (← elements.mapM (within? room))
  | room + 1, .object members => do
    return .object (← members.mapM fun member => return (member.1, ← within? room member.2))

namespace Value

@[simp] theorem within?_scalar (room : Nat) (value : Scalar) :
    (Value.scalar value).within? room = some (.scalar value) := by
  cases room <;> rfl

theorem within?_string (room : Nat) (s : String) :
    (Value.string s).within? room = some (.string s) := within?_scalar room (.string s)

theorem within?_list {room : Nat} {elements : List Value}
    (hElements : ∀ element ∈ elements, element.within? room = some element) :
    (Value.list elements).within? (room + 1) = some (.list elements) := by
  have hMap : elements.mapM (within? room) = some elements :=
    mapM_of_forall₂ (List.forall₂_same.mpr hElements)
  rw [within?, hMap]
  rfl

theorem within?_texts (room : Nat) (names : List String) :
    (Value.list (names.map .string)).within? (room + 1) = some (.list (names.map .string)) := by
  apply within?_list
  intro element hElement
  obtain ⟨s, -, rfl⟩ := List.mem_map.mp hElement
  exact within?_string room s

theorem within?_object {room : Nat} {members : List (String × Value)}
    (hMembers : ∀ member ∈ members, member.2.within? room = some member.2) :
    (Value.object members).within? (room + 1) = some (.object members) := by
  have hMap : (members.mapM fun member => do return (member.1, ← within? room member.2)) =
      some members := by
    refine mapM_of_forall₂ (List.forall₂_same.mpr fun member hMember => ?_)
    rw [hMembers member hMember]
    rfl
  rw [within?, hMap]
  rfl

end Value

/-- The budget of a reader of an object is greater than the number of the members. -/
theorem length_lt_budget_of_members {members : List (String × Value)} {left : List Token}
    {text : List Char} (hText : LaidOut (memberTokens true members ++ left) text) :
    members.length < text.length + 1 := by
  have hTokens := hText.length_le
  have hMembers := length_le_length_memberTokens true members
  simp only [List.length_append] at hTokens
  omega

theorem outcome_readMembers {read : List Char → Except Stop (Left Value)}
    {result : Value → Option Value} {members : List (String × Value)} {left : List Token}
    (hReads : ∀ value : Value, Reads read value.tokens (result value)) :
    ∀ isFirst budget text, members.length < budget →
      LaidOut (memberTokens isFirst members ++ .mark '\x7d' :: left) text →
      Outcome (.mark '\x7d' :: left)
        (members.mapM fun member => do return (member.1, ← result member.2))
        (readMembers read budget isFirst text) := by
  induction members with
  | nil =>
    intro isFirst budget text hBudget hText
    obtain ⟨budget, rfl⟩ := Nat.exists_eq_add_one.mpr hBudget
    obtain ⟨rest, hEnding, hRest⟩ := LaidOut.nextKey_ending hText isFirst
    simp only [readMembers, hEnding, Except.bind, bind]
    exact .taken hRest
  | cons member members ih =>
    intro isFirst budget text hBudget hText
    obtain ⟨budget, rfl⟩ := Nat.exists_eq_add_one.mpr (Nat.zero_lt_of_lt hBudget)
    obtain ⟨key, value⟩ := member
    rw [memberTokens] at hText
    simp only [List.append_assoc, List.cons_append] at hText
    obtain ⟨inner, behind, rest, hItem, hKey, hColon, hRest⟩ := LaidOut.nextKey_item hText
    have hStep : readMembers read (budget + 1) isFirst text = read rest >>= fun p =>
        readMembers read budget false p.2 >>= fun q => pure ((key, p.1) :: q.1, q.2) := by
      simp only [readMembers, hItem, hKey, hColon, bind, Except.bind]
    rw [List.mapM_cons, bind_assoc, hStep]
    refine (hReads value hRest).bind fun a behind hBehind => ?_
    exact (ih false budget behind (by simpa using hBudget) hBehind).map ((key, a) :: ·)

theorem reads_readValue (room : Nat) (value : Value) :
    Reads (readValue room) value.tokens (value.within? room) := by
  induction room generalizing value with
  | zero =>
    intro left text hText
    cases value with
    | scalar value =>
      rw [Value.tokens] at hText
      exact outcome_readValue_scalar 0 hText
    | list elements =>
      rw [Value.tokens] at hText
      obtain ⟨rest, hSkip, -⟩ := LaidOut.skipBlanks_mark hText
      simp only [readValue, hSkip]
      exact .stopped _
    | object members =>
      rw [Value.tokens] at hText
      obtain ⟨rest, hSkip, -⟩ := LaidOut.skipBlanks_mark hText
      simp only [readValue, hSkip]
      exact .stopped _
  | succ room ih =>
    intro left text hText
    cases value with
    | scalar value =>
      rw [Value.tokens] at hText
      exact outcome_readValue_scalar (room + 1) hText
    | list elements =>
      rw [Value.tokens] at hText
      simp only [List.append_assoc, List.cons_append, List.nil_append] at hText
      obtain ⟨rest, hSkip, hRest⟩ := LaidOut.skipBlanks_mark hText
      have hElements := outcome_readElements (fun element _ => ih element) true _ rest
        (length_lt_budget_of_elements hRest) hRest
      simp only [readValue, hSkip]
      exact hElements.inBrackets.map Value.list
    | object members =>
      rw [Value.tokens] at hText
      simp only [List.append_assoc, List.cons_append, List.nil_append] at hText
      obtain ⟨rest, hSkip, hRest⟩ := LaidOut.skipBlanks_mark hText
      have hMembers := outcome_readMembers ih true _ rest (length_lt_budget_of_members hRest) hRest
      simp only [readValue, hSkip]
      exact hMembers.inBraces.map Value.object

end ShaderHandles.Json
