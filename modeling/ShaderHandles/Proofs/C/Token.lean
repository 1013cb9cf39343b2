import ShaderHandles.Proofs.C.Word

/-!
# Tokens of C

The generated code uses a small part of the tokens of C99: words, numbers, string literals without
escapes, the names of headers, comments and punctuation. A scanner goes through a text one character
at a time. It refuses a character that begins no token of this part, a literal that is open at the
end of its line or holds a backslash, and a number sign that is not the first token of its line; a
text is read to its end only if no comment or literal is open there. Macros are not replaced: a name
is a token also where a directive of the same text defines it.

* `scan`: the tokens that a scanner finds in some characters, and the scanner after them.
* `tokens`: the tokens of a whole text.
* `Scans.append`: characters in a row are read one part after the other.
* `Scans.name`, `Scans.literal`: an identifier and a quoted text are read as one token.
-/

namespace ShaderHandles.C

/-- A token. The end of a line is a token only after a directive. -/
inductive Token where
  | keyword (text : String)
  | name (text : String)
  | number (text : String)
  | literal (text : String)
  | header (text : String)
  | mark (c : Char)
  | lineEnd
  deriving DecidableEq

/-- The token of a word. -/
def Token.ofWord (chars : List Char) : Token :=
  if keywords.contains (String.ofList chars) then .keyword (String.ofList chars)
  else .name (String.ofList chars)

/-- What the tokens before on the same line make of it. -/
inductive Line where
  | start
  | code
  | hash
  | includes
  | directive
  deriving DecidableEq

/-- The line after one more token. -/
def Line.after : Line → Token → Line
  | start, _ => code
  | code, _ => code
  | hash, token => if token = .name "include" then includes else directive
  | includes, _ => directive
  | directive, _ => directive

/-- The token that the end of the line is. -/
def Line.ending : Line → List Token
  | start | code => []
  | hash | includes | directive => [.lineEnd]

/-- What a scanner is in the middle of. The characters of an open token stand last one first. -/
inductive Mode where
  | blank
  | word (chars : List Char)
  | number (chars : List Char)
  | literal (chars : List Char)
  | header (chars : List Char)
  | slash
  | comment
  | star
  deriving DecidableEq

/-- A scanner between two characters. -/
structure Scanner where
  mode : Mode
  line : Line
  deriving DecidableEq

namespace Scanner

/-- The scanner at the start of a line, outside of comments. -/
def start : Scanner := ⟨.blank, .start⟩

/-- The scanner between two tokens of a line of code. -/
def code : Scanner := ⟨.blank, .code⟩

/-- The characters that are tokens on their own. -/
def marks : List Char := ['\x7b', '\x7d', '(', ')', ';', ',', '.', '=', '&']

/-- A character outside of words, numbers, literals and comments. -/
def stepBlank (line : Line) (c : Char) : Option (List Token × Scanner) :=
  if isIdentifierStart c then some ([], ⟨.word [c], line⟩)
  else if c.isDigit then some ([], ⟨.number [c], line⟩)
  else if c = ' ' then some ([], ⟨.blank, line⟩)
  else if c = '\n' then some (line.ending, start)
  else if c = '"' then some ([], ⟨.literal [], line⟩)
  else if c = '/' then some ([], ⟨.slash, line⟩)
  else if c = '#' then
    if line = .start then some ([.mark c], ⟨.blank, .hash⟩) else none
  else if c = '<' then
    if line = .includes then some ([], ⟨.header [], line⟩) else none
  else if c ∈ marks then some ([.mark c], ⟨.blank, line.after (.mark c)⟩)
  else none

/-- A token ends before a character, which is then read on its own. -/
def stepAfter (line : Line) (token : Token) (c : Char) : Option (List Token × Scanner) :=
  (stepBlank (line.after token) c).map fun (found, next) => (token :: found, next)

/-- One character: the tokens that it completes and the scanner after it. -/
def step (scanner : Scanner) (c : Char) : Option (List Token × Scanner) :=
  let line := scanner.line
  match scanner.mode with
  | .blank => stepBlank line c
  | .word chars =>
    if isIdentifierPart c then some ([], ⟨.word (c :: chars), line⟩)
    else stepAfter line (.ofWord chars.reverse) c
  | .number chars =>
    if isIdentifierPart c then some ([], ⟨.number (c :: chars), line⟩)
    else stepAfter line (.number (.ofList chars.reverse)) c
  | .literal chars =>
    let token := Token.literal (.ofList chars.reverse)
    if c = '"' then some ([token], ⟨.blank, line.after token⟩)
    else if c = '\\' ∨ c = '\n' then none
    else some ([], ⟨.literal (c :: chars), line⟩)
  | .header chars =>
    let token := Token.header (.ofList chars.reverse)
    if c = '>' then some ([token], ⟨.blank, line.after token⟩)
    else if c = '\n' then none
    else some ([], ⟨.header (c :: chars), line⟩)
  | .slash => if c = '*' then some ([], ⟨.comment, line⟩) else none
  | .comment => some ([], ⟨if c = '*' then .star else .comment, line⟩)
  | .star =>
    some ([], ⟨if c = '/' then .blank else if c = '*' then .star else .comment, line⟩)

end Scanner

/-- The tokens in some characters and the scanner after them. -/
def scan (scanner : Scanner) : List Char → Option (List Token × Scanner)
  | [] => some ([], scanner)
  | c :: rest => do
    let (found, next) ← scanner.step c
    let (others, last) ← scan next rest
    return (found ++ others, last)

/-- The tokens of a text, whose last line has to have its end. -/
def tokens (text : String) : Option (List Token) :=
  (scan .start text.toList).bind fun (found, last) => if last = .start then some found else none

/-! ## Reading one part after the other -/

/-- A scanner reads the characters as the tokens and becomes another one. -/
structure Scans (scanner : Scanner) (chars : List Char) (found : List Token) (next : Scanner) :
    Prop where
  result : scan scanner chars = some (found, next)

/-- A line by itself is read as the tokens. -/
def LineScans (line : String) (found : List Token) : Prop :=
  Scans .start (line.toList ++ ['\n']) found .start

namespace Scans

variable {scanner next last : Scanner} {first second : List Char} {found others : List Token}

theorem nil : Scans scanner [] [] scanner := ⟨rfl⟩

theorem cons {c : Char} (hStep : scanner.step c = some (found, next))
    (hRest : Scans next second others last) : Scans scanner (c :: second) (found ++ others) last := by
  constructor
  rw [scan, hStep]
  simp [hRest.result]

theorem one {c : Char} (hStep : scanner.step c = some (found, next)) :
    Scans scanner [c] found next := by
  have hScan := cons hStep nil
  rwa [List.append_nil] at hScan

/-- Characters in a row are read one part after the other. -/
theorem append (hFirst : Scans scanner first found next) (hSecond : Scans next second others last) :
    Scans scanner (first ++ second) (found ++ others) last := by
  induction first generalizing scanner found with
  | nil =>
    have hNil : some ([], scanner) = some (found, next) := hFirst.result
    simp only [Option.some.injEq, Prod.mk.injEq] at hNil
    obtain ⟨rfl, rfl⟩ := hNil
    exact hSecond
  | cons c rest ih =>
    have hScan := hFirst.result
    simp only [scan, Option.bind_eq_bind, Option.bind_eq_some_iff, Option.pure_def,
      Option.some.injEq, Prod.exists, Prod.mk.injEq] at hScan
    obtain ⟨tokens, middle, hStep, more, end', hRest, hTokens, rfl⟩ := hScan
    rw [List.cons_append, ← hTokens, List.append_assoc]
    exact cons hStep (ih ⟨hRest⟩)

theorem congr {chars' : List Char} {found' : List Token} (hScans : Scans scanner first found next)
    (hChars : first = chars') (hFound : found = found') : Scans scanner chars' found' next :=
  hChars ▸ hFound ▸ hScans

/-- Parts of a word go on with it. -/
theorem word {line : Line} {chars : List Char} (hParts : ∀ c ∈ first, isIdentifierPart c = true) :
    Scans ⟨.word chars, line⟩ first [] ⟨.word (first.reverse ++ chars), line⟩ := by
  induction first generalizing chars with
  | nil => exact nil
  | cons c rest ih =>
    have hStep : Scanner.step ⟨.word chars, line⟩ c = some ([], ⟨.word (c :: chars), line⟩) := by
      simp [Scanner.step, hParts c List.mem_cons_self]
    have hRest := cons hStep (ih fun other hOther => hParts other (List.mem_cons_of_mem c hOther))
    simpa using hRest

/-- Characters of a literal go on with it. -/
theorem inLiteral {line : Line} {chars : List Char} (hParts : ∀ c ∈ first, isLiteralChar c = true) :
    Scans ⟨.literal chars, line⟩ first [] ⟨.literal (first.reverse ++ chars), line⟩ := by
  induction first generalizing chars with
  | nil => exact nil
  | cons c rest ih =>
    have hc := hParts c List.mem_cons_self
    have hNot (other : Char) (hOther : isLiteralChar other = false) : c ≠ other := by
      rintro rfl
      exact Bool.false_ne_true (hOther.symm.trans hc)
    have hStep : Scanner.step ⟨.literal chars, line⟩ c =
        some ([], ⟨.literal (c :: chars), line⟩) := by
      simp [Scanner.step, hNot '"' rfl, hNot '\\' rfl, hNot '\n' rfl]
    have hRest := cons hStep (ih fun other hOther => hParts other (List.mem_cons_of_mem c hOther))
    simpa using hRest

/-- A word ends before a character that is no part of it. -/
theorem wordEnd {line : Line} {chars : List Char} {c : Char} (hc : isIdentifierPart c = false)
    (hRest : Scans ⟨.blank, line.after (.ofWord chars.reverse)⟩ (c :: second) others last) :
    Scans ⟨.word chars, line⟩ (c :: second) (.ofWord chars.reverse :: others) last := by
  have hScan := hRest.result
  simp only [scan, Scanner.step, Option.bind_eq_bind, Option.bind_eq_some_iff, Option.pure_def,
    Option.some.injEq, Prod.exists, Prod.mk.injEq] at hScan
  obtain ⟨tokens, middle, hStep, more, end', hMore, rfl, rfl⟩ := hScan
  have hBefore : Scanner.step ⟨.word chars, line⟩ c =
      some (.ofWord chars.reverse :: tokens, middle) := by
    simp [Scanner.step, Scanner.stepAfter, hc, hStep]
  exact cons hBefore ⟨hMore⟩

/-- An identifier is read as one token if no part of a word follows it. -/
theorem name {line : Line} {name : String} {c : Char} (hName : isIdentifier name = true)
    (hLine : line.after (.name name) = .code) (hc : isIdentifierPart c = false)
    (hRest : Scans .code (c :: second) others last) :
    Scans ⟨.blank, line⟩ (name.toList ++ c :: second) (.name name :: others) last := by
  obtain ⟨initial, rest, hChars, hStart, hParts⟩ := exists_cons_of_isWord
    (isWord_of_isIdentifier hName)
  have hToken : Token.ofWord name.toList = .name name := by
    simp [Token.ofWord, not_mem_keywords_of_isIdentifier hName]
  have hStep : Scanner.step ⟨.blank, line⟩ initial = some ([], ⟨.word [initial], line⟩) := by
    simp [Scanner.step, Scanner.stepBlank, hStart]
  have hBegin : Scans ⟨.blank, line⟩ [initial] [] ⟨.word [initial], line⟩ := one hStep
  have hWord : Scans ⟨.blank, line⟩ name.toList [] ⟨.word name.toList.reverse, line⟩ := by
    rw [hChars]
    simpa using hBegin.append (word (List.all_eq_true.mp hParts))
  have hEnd : Scans ⟨.word name.toList.reverse, line⟩ (c :: second) (.name name :: others) last := by
    have hAfter : Scans ⟨.blank, line.after (.ofWord name.toList.reverse.reverse)⟩
        (c :: second) others last := by
      rwa [List.reverse_reverse, hToken, hLine]
    have hWordEnd := wordEnd hc hAfter
    rwa [List.reverse_reverse, hToken] at hWordEnd
  exact hWord.append hEnd

/-- A quoted text in a line of code is read as one token. -/
theorem literal {text : String} (hText : isQuotable text = true) :
    Scans .code (quote text).toList [.literal text] .code := by
  have hOpen : Scans .code ['"'] [] ⟨.literal [], .code⟩ := one rfl
  have hStep : Scanner.step ⟨.literal text.toList.reverse, .code⟩ '"' =
      some ([.literal text], .code) := by
    simp [Scanner.step, Scanner.code, Line.after]
  have hClose : Scans ⟨.literal text.toList.reverse, .code⟩ ['"'] [.literal text] .code := one hStep
  have hInner : Scans ⟨.literal [], .code⟩ text.toList []
      ⟨.literal (text.toList.reverse ++ []), .code⟩ := inLiteral (isLiteralChar_of_isQuotable hText)
  rw [List.append_nil] at hInner
  refine ((hOpen.append hInner).append hClose).congr ?_ rfl
  rw [quote, String.toList_append, String.toList_append]
  rfl

end Scans

theorem LineScans.empty : LineScans "" [] := ⟨rfl⟩

end ShaderHandles.C
