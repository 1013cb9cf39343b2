import ShaderHandles.Proofs.C.Word

/-!
# The first phases of translation

A compiler of C99 reads a text in phases. In the first, trigraphs are replaced; in the second, a line
that ends with a backslash is joined with the next one. Only then is the text taken apart into tokens.

* `replaceTrigraphs`, `joinLines`, `translate`: the two phases.
* `replaceTrigraphs_append`: a character that is no part of trigraphs separates what stands before it
  from what stands behind it.
* `length_bytes_replaceTrigraphs_of_hasTrigraph`: trigraphs make a text shorter.
* `translate_append_lineEnd`: a line that does not end with a backslash is read by itself.
-/

namespace ShaderHandles.C

/-- The bytes that characters stand for. -/
def bytes (chars : List Char) : List UInt8 := chars.flatMap String.utf8EncodeChar

theorem bytes_nil : bytes [] = [] := rfl

theorem bytes_cons (c : Char) (rest : List Char) :
    bytes (c :: rest) = String.utf8EncodeChar c ++ bytes rest :=
  List.flatMap_cons

theorem bytes_append (first second : List Char) :
    bytes (first ++ second) = bytes first ++ bytes second :=
  List.flatMap_append

theorem toList_toUTF8 (text : String) : text.toUTF8.data.toList = bytes text.toList := by
  have hText : text.toUTF8 = (bytes text.toList).toByteArray := String.utf8Encode_toList.symm
  rw [hText, List.data_toByteArray]

theorem length_le_length_bytes (chars : List Char) : chars.length ≤ (bytes chars).length := by
  induction chars with
  | nil => exact Nat.le_refl 0
  | cons c rest ih =>
    have hChar := c.utf8Size_pos
    rw [bytes_cons, List.length_append, String.length_utf8EncodeChar, List.length_cons]
    omega

/-! ## Trigraphs -/

/-- The last characters of trigraphs, each with the character that the trigraph stands for. -/
def trigraphs : List (Char × Char) :=
  [('=', '#'), ('(', '['), ('/', '\\'), (')', ']'), ('\x27', '^'), ('<', '\x7b'), ('!', '|'),
    ('>', '\x7d'), ('-', '~')]

/-- The character that three characters stand for if they are a trigraph. -/
def trigraph? (c d e : Char) : Option Char :=
  if c = '?' ∧ d = '?' then trigraphs.lookup e else none

/-- The first phase. -/
def replaceTrigraphs : List Char → List Char
  | [] => []
  | [c] => [c]
  | [c, d] => [c, d]
  | c :: d :: e :: rest =>
    match trigraph? c d e with
    | some replacement => replacement :: replaceTrigraphs rest
    | none => c :: replaceTrigraphs (d :: e :: rest)

/-- Somewhere in the text stands a trigraph. -/
inductive HasTrigraph : List Char → Prop where
  | here {third : Char} (rest : List Char) (hThird : third ∈ trigraphs.map Prod.fst) :
    HasTrigraph ('?' :: '?' :: third :: rest)
  | there (c : Char) {rest : List Char} (hRest : HasTrigraph rest) : HasTrigraph (c :: rest)

theorem HasTrigraph.mark_mem {text : List Char} (hText : HasTrigraph text) : '?' ∈ text := by
  cases hText with
  | here rest hThird => exact List.mem_cons_self
  | there c hRest => exact List.mem_cons_of_mem c hRest.mark_mem

/-- A character that is no part of trigraphs. -/
structure Separates (c : Char) : Prop where
  not_mark : c ≠ '?'
  not_third : c ∉ trigraphs.map Prod.fst

theorem trigraph?_eq_some {c d e replacement : Char} (h : trigraph? c d e = some replacement) :
    c = '?' ∧ d = '?' ∧ (e, replacement) ∈ trigraphs := by
  unfold trigraph? at h
  split at h
  · rename_i hMarks
    obtain ⟨before, after, hTable, -⟩ := List.lookup_eq_some_iff.mp h
    refine ⟨hMarks.1, hMarks.2, ?_⟩
    rw [hTable]
    exact List.mem_append_right _ List.mem_cons_self
  · exact nomatch h

theorem replaceTrigraphs_cons {c : Char} {rest : List Char}
    (hHead : ∀ d e tail, rest = d :: e :: tail → trigraph? c d e = none) :
    replaceTrigraphs (c :: rest) = c :: replaceTrigraphs rest := by
  match rest with
  | [] => rfl
  | [d] => rfl
  | d :: e :: tail => rw [replaceTrigraphs, hHead d e tail rfl]

/-- The first character of a text stays, or a trigraph begins with it. -/
theorem replaceTrigraphs_cases (c : Char) (rest : List Char) :
    replaceTrigraphs (c :: rest) = c :: replaceTrigraphs rest ∨
      ∃ e replacement tail, c = '?' ∧ rest = '?' :: e :: tail ∧ (e, replacement) ∈ trigraphs ∧
        replaceTrigraphs (c :: rest) = replacement :: replaceTrigraphs tail := by
  match rest with
  | [] => exact .inl rfl
  | [d] => exact .inl rfl
  | d :: e :: tail =>
    cases hTrigraph : trigraph? c d e with
    | none => exact .inl (by rw [replaceTrigraphs, hTrigraph])
    | some replacement =>
      obtain ⟨rfl, rfl, hTable⟩ := trigraph?_eq_some hTrigraph
      exact .inr ⟨e, replacement, tail, rfl, rfl, hTable, by rw [replaceTrigraphs, hTrigraph]⟩

theorem replaceTrigraphs_eq_self {text : List Char} (hText : ¬ HasTrigraph text) :
    replaceTrigraphs text = text := by
  induction text with
  | nil => rfl
  | cons c rest ih =>
    rcases replaceTrigraphs_cases c rest with hStays | ⟨e, replacement, tail, rfl, rfl, hTable, -⟩
    · rw [hStays, ih fun hRest => hText (.there c hRest)]
    · exact absurd (.here tail (List.mem_map_of_mem hTable)) hText

/-- A character that is no part of trigraphs separates what stands before it from what stands behind
it. -/
theorem replaceTrigraphs_append {mark : Char} (hMark : Separates mark) (first second : List Char) :
    replaceTrigraphs (first ++ mark :: second) =
      replaceTrigraphs first ++ mark :: replaceTrigraphs second := by
  have hNot (c d e : Char) (hPart : mark = c ∨ mark = d ∨ mark = e) : trigraph? c d e = none := by
    cases hTrigraph : trigraph? c d e with
    | none => rfl
    | some replacement =>
      obtain ⟨hFirst, hSecond, hTable⟩ := trigraph?_eq_some hTrigraph
      rcases hPart with rfl | rfl | rfl
      · exact absurd hFirst hMark.not_mark
      · exact absurd hSecond hMark.not_mark
      · exact absurd (List.mem_map_of_mem hTable) hMark.not_third
  have hSecond : replaceTrigraphs (mark :: second) = mark :: replaceTrigraphs second :=
    replaceTrigraphs_cons fun d e _ _ => hNot mark d e (.inl rfl)
  have hOne (c : Char) : replaceTrigraphs (c :: mark :: second) = c :: mark :: replaceTrigraphs second := by
    rw [replaceTrigraphs_cons, hSecond]
    rintro d e tail hEq
    cases hEq
    exact hNot c mark e (.inr (.inl rfl))
  -- The cases of the definition: up to two characters before the mark, or at least three.
  fun_induction replaceTrigraphs first with
  | case1 => exact hSecond
  | case2 c => exact hOne c
  | case3 c d =>
    rw [List.cons_append, replaceTrigraphs_cons, List.cons_append, List.nil_append, hOne d]
    · rfl
    · rintro d e tail hEq
      cases hEq
      exact hNot c d mark (.inr (.inr rfl))
  | case4 c d e rest replacement hTrigraph ih =>
    simpa [replaceTrigraphs, hTrigraph] using ih
  | case5 c d e rest hTrigraph ih =>
    simpa [replaceTrigraphs, hTrigraph] using ih

/-- A trigraph has three bytes, and the character that it stands for has one. -/
theorem length_bytes_of_mem_trigraphs {e replacement : Char} (hTable : (e, replacement) ∈ trigraphs)
    (rest : List Char) :
    (bytes ('?' :: '?' :: e :: rest)).length = 3 + (bytes rest).length ∧
      (bytes (replacement :: rest)).length = 1 + (bytes rest).length := by
  have hSizes : ∀ entry ∈ trigraphs, entry.1.utf8Size = 1 ∧ entry.2.utf8Size = 1 := by decide
  obtain ⟨hThird, hReplacement⟩ := hSizes _ hTable
  have hMark : '?'.utf8Size = 1 := by decide
  simp only [bytes_cons, List.length_append, String.length_utf8EncodeChar, hThird, hReplacement,
    hMark, and_true]
  omega

theorem length_bytes_replaceTrigraphs_le (text : List Char) :
    (bytes (replaceTrigraphs text)).length ≤ (bytes text).length := by
  fun_induction replaceTrigraphs text with
  | case1 => exact Nat.le_refl _
  | case2 c => exact Nat.le_refl _
  | case3 c d => exact Nat.le_refl _
  | case4 c d e rest replacement hTrigraph ih =>
    obtain ⟨rfl, rfl, hTable⟩ := trigraph?_eq_some hTrigraph
    obtain ⟨hText, -⟩ := length_bytes_of_mem_trigraphs hTable rest
    obtain ⟨-, hReplaced⟩ := length_bytes_of_mem_trigraphs hTable (replaceTrigraphs rest)
    omega
  | case5 c d e rest hTrigraph ih =>
    rw [bytes_cons, bytes_cons, List.length_append, List.length_append]
    omega

/-- Trigraphs make a text shorter, each by two bytes. -/
theorem length_bytes_replaceTrigraphs_of_hasTrigraph {text : List Char} (hText : HasTrigraph text) :
    (bytes (replaceTrigraphs text)).length + 2 ≤ (bytes text).length := by
  have hReplaced {e replacement : Char} (tail : List Char) (hTable : (e, replacement) ∈ trigraphs) :
      (bytes (replacement :: replaceTrigraphs tail)).length + 2 ≤
        (bytes ('?' :: '?' :: e :: tail)).length := by
    obtain ⟨hBefore, -⟩ := length_bytes_of_mem_trigraphs hTable tail
    obtain ⟨-, hAfter⟩ := length_bytes_of_mem_trigraphs hTable (replaceTrigraphs tail)
    have hTail := length_bytes_replaceTrigraphs_le tail
    omega
  induction hText with
  | @here third rest hThird =>
    have hTable : ∀ entry ∈ trigraphs, (trigraphs.lookup entry.1).isSome = true := by decide
    obtain ⟨entry, hEntry, rfl⟩ := List.mem_map.mp hThird
    obtain ⟨replacement, hLookup⟩ := Option.isSome_iff_exists.mp (hTable entry hEntry)
    have hTrigraph : trigraph? '?' '?' entry.1 = some replacement := hLookup
    rw [replaceTrigraphs, hTrigraph]
    exact hReplaced rest (trigraph?_eq_some hTrigraph).2.2
  | @there c rest _ ih =>
    rcases replaceTrigraphs_cases c rest with hStays | ⟨e, replacement, tail, rfl, rfl, hTable, hEq⟩
    · rw [hStays, bytes_cons, bytes_cons, List.length_append, List.length_append]
      omega
    · rw [hEq]
      exact hReplaced tail hTable

theorem lineEnd_not_mem_replaceTrigraphs {text : List Char} (hText : '\n' ∉ text) :
    '\n' ∉ replaceTrigraphs text := by
  have hTable : ∀ entry ∈ trigraphs, entry.2 ≠ '\n' := by decide
  fun_induction replaceTrigraphs text with
  | case1 => exact hText
  | case2 c => exact hText
  | case3 c d => exact hText
  | case4 c d e rest replacement hTrigraph ih =>
    obtain ⟨-, -, hEntry⟩ := trigraph?_eq_some hTrigraph
    intro hMem
    rcases List.mem_cons.mp hMem with hEq | hMem
    · exact hTable _ hEntry hEq.symm
    · simp only [List.mem_cons, not_or] at hText
      exact ih hText.2.2.2 hMem
  | case5 c d e rest hTrigraph ih =>
    intro hMem
    rcases List.mem_cons.mp hMem with hEq | hMem
    · exact hText (hEq ▸ List.mem_cons_self)
    · exact ih (fun hRest => hText (List.mem_cons_of_mem c hRest)) hMem

/-! ## Lines -/

/-- The second phase. -/
def joinLines : List Char → List Char
  | [] => []
  | [c] => [c]
  | c :: d :: rest =>
    if c = '\\' ∧ d = '\n' then joinLines rest else c :: joinLines (d :: rest)

/-- The first two phases. -/
def translate (text : List Char) : List Char := joinLines (replaceTrigraphs text)

theorem joinLines_cons {c : Char} {rest : List Char} (hHead : c ≠ '\\' ∨ rest.head? ≠ some '\n') :
    joinLines (c :: rest) = c :: joinLines rest := by
  cases rest with
  | nil => rfl
  | cons d tail =>
    refine if_neg fun hJoined => ?_
    rcases hHead with hBackslash | hLineEnd
    · exact hBackslash hJoined.1
    · exact hLineEnd (congrArg some hJoined.2)

/-- Without line ends in it a text stays, unless it ends with a backslash and a line end follows. -/
theorem joinLines_append {first second : List Char} (hFirst : '\n' ∉ first)
    (hSeam : first.getLast? ≠ some '\\' ∨ second.head? ≠ some '\n') :
    joinLines (first ++ second) = first ++ joinLines second := by
  induction first with
  | nil => rfl
  | cons c rest ih =>
    have hHead : c ≠ '\\' ∨ (rest ++ second).head? ≠ some '\n' := by
      cases rest with
      | nil => simpa using hSeam
      | cons d tail =>
        have hd : d ≠ '\n' := fun hEq => hFirst (by simp [hEq])
        exact .inr (by simpa using hd)
    have hSeamRest : rest.getLast? ≠ some '\\' ∨ second.head? ≠ some '\n' := by
      cases rest with
      | nil => exact .inl (by simp)
      | cons d tail => rwa [List.getLast?_cons_cons] at hSeam
    rw [List.cons_append, joinLines_cons hHead,
      ih (fun hMem => hFirst (List.mem_cons_of_mem c hMem)) hSeamRest, List.cons_append]

theorem translate_eq_replaceTrigraphs {text : List Char} (hText : '\n' ∉ text) :
    translate text = replaceTrigraphs text := by
  have hJoined : joinLines (replaceTrigraphs text ++ []) = replaceTrigraphs text ++ joinLines [] :=
    joinLines_append (lineEnd_not_mem_replaceTrigraphs hText) (.inr (by simp))
  rwa [List.append_nil, joinLines, List.append_nil] at hJoined

/-- What the two phases make of a text between quotes. -/
theorem translate_quote {text : String} (hText : '\n' ∉ text.toList) (after : List Char) :
    translate ((quote text).toList ++ after) =
      '"' :: (replaceTrigraphs text.toList ++ '"' :: translate after) := by
  have hMark : Separates '"' := ⟨by decide, by decide⟩
  have hQuote : (quote text).toList ++ after =
      [] ++ '"' :: (text.toList ++ '"' :: after) := by
    simp [quote, String.toList_append]
  rw [translate, hQuote, replaceTrigraphs_append hMark, replaceTrigraphs_append hMark,
    replaceTrigraphs, List.nil_append, joinLines_cons (.inl (by decide)),
    joinLines_append (lineEnd_not_mem_replaceTrigraphs hText) (.inr (by simp)),
    joinLines_cons (.inl (by decide)), translate]

/-- A line that does not end with a backslash is read by itself. -/
theorem translate_append_lineEnd {line : List Char} (hLine : '\n' ∉ line)
    (hLast : (replaceTrigraphs line).getLast? ≠ some '\\') (rest : List Char) :
    translate (line ++ '\n' :: rest) = translate line ++ '\n' :: translate rest := by
  have hMark : Separates '\n' := ⟨by decide, by decide⟩
  rw [translate_eq_replaceTrigraphs hLine, translate, replaceTrigraphs_append hMark,
    joinLines_append (lineEnd_not_mem_replaceTrigraphs hLine) (.inl hLast),
    joinLines_cons (.inl (by decide)), translate]

end ShaderHandles.C
