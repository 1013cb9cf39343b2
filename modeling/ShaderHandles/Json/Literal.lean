import ShaderHandles.Json.Reading

/-!
# Strings of a document

A string stands between double quotes. The quote, the backslash and the controls below U+0020 are
written after a backslash, some by a letter and any character by the four hexadecimal digits of its
UTF-16 units; everything else stands for itself.

* `encodeString`: a string as it is written.
* `readString`: a string that is read, after its opening quote.
* `skipString`: a string whose escapes are not understood.
-/

namespace ShaderHandles.Json

/-! ## Writing -/

def hexDigit (n : Nat) : Char := if n < 10 then Char.ofNat (48 + n) else Char.ofNat (87 + n)

/-- A character as it is written in a string. -/
def encodeChar (c : Char) : List Char :=
  if c == '"' then ['\\', '"']
  else if c == '\\' then ['\\', '\\']
  else if c == '\x08' then ['\\', 'b']
  else if c == '\t' then ['\\', 't']
  else if c == '\n' then ['\\', 'n']
  else if c == '\x0c' then ['\\', 'f']
  else if c == '\r' then ['\\', 'r']
  else if c.toNat < 0x20 then
    ['\\', 'u', '0', '0', hexDigit (c.toNat / 16), hexDigit (c.toNat % 16)]
  else [c]

/-- A string between its quotes. -/
def encodeString (s : String) : List Char :=
  '"' :: s.toList.flatMap encodeChar ++ ['"']

/-! ## Hexadecimal escapes -/

def byteCount (text : List Char) : Nat := text.foldr (fun c count => c.utf8Size + count) 0

/-- The four bytes of a hexadecimal escape. -/
def readHex4 (text : List Char) : Except Stop (Left Nat) :=
  match text with
  | a :: b :: c :: d :: rest =>
    match Text.hexNumber? [a, b, c, d] with
    | some n => .ok (n, rest)
    | none => refuse text
  | text => refuse text
where
  /-- Too few bytes are the end of the text; otherwise the escape is refused after its bytes. -/
  refuse (text : List Char) : Except Stop (Left Nat) :=
    if byteCount text < 4 then stopAt .endInString []
    else .error (.located .invalidEscape (Mark.afterBytes 4 text))

/-- One of two characters that must follow a first half of a pair. -/
def readPairMark (c : Char) : List Char → Except Stop (List Char)
  | [] => stopAt .endInString []
  | head :: rest =>
    if head == c then .ok rest else stopAfterByte .endOfHexEscape (head :: rest)

/-- The character of a hexadecimal escape, which is a pair of them above U+FFFF. -/
def readHexEscape (text : List Char) : Except Stop (Left Char) := do
  let (n, rest) ← readHex4 text
  if 0xdc00 ≤ n ∧ n ≤ 0xdfff then
    stopAt .loneSurrogate rest
  else if n < 0xd800 ∨ 0xdbff < n then
    return (Char.ofNat n, rest)
  else
    let rest ← readPairMark '\\' rest
    let rest ← readPairMark 'u' rest
    let (m, rest) ← readHex4 rest
    if m < 0xdc00 ∨ 0xdfff < m then
      stopAt .loneSurrogate rest
    else
      return (Char.ofNat (0x10000 + (n - 0xd800) * 0x400 + (m - 0xdc00)), rest)

/-- The character of a letter after a backslash. -/
def escapedChar? (c : Char) : Option Char :=
  if c == '"' then some '"'
  else if c == '\\' then some '\\'
  else if c == '/' then some '/'
  else if c == 'b' then some '\x08'
  else if c == 'f' then some '\x0c'
  else if c == 'n' then some '\n'
  else if c == 'r' then some '\r'
  else if c == 't' then some '\t'
  else none

/-- The character of an escape, after the backslash. -/
def readEscape (text : List Char) : Except Stop (Left Char) :=
  match text with
  | [] => stopAt .endInString []
  | c :: rest =>
    if c == 'u' then readHexEscape rest
    else
      match escapedChar? c with
      | some c => .ok (c, rest)
      | none => stopAfterByte .invalidEscape (c :: rest)

/-! ## Reading -/

/-- The characters up to the closing quote. Every step takes at least one character, so a budget
over the length of the text is never used up. -/
def readChars : (budget : Nat) → List Char → Except Stop (Left (List Char))
  | 0, _ => stopAt .endInString []
  | _ + 1, [] => stopAt .endInString []
  | budget + 1, c :: rest =>
    if c == '"' then .ok ([], rest)
    else if c == '\\' then do
      let (c, rest) ← readEscape rest
      let (chars, rest) ← readChars budget rest
      return (c :: chars, rest)
    else if c.toNat < 0x20 then stopAt .controlCharacter rest
    else do
      let (chars, rest) ← readChars budget rest
      return (c :: chars, rest)

/-- A string after its opening quote. -/
def readString (text : List Char) : Except Stop (Left String) := do
  let (chars, rest) ← readChars (text.length + 1) text
  return (String.ofList chars, rest)

/-! ## Skipping -/

def skipEscape (text : List Char) : Except Stop (List Char) :=
  match text with
  | [] => stopAt .endInString []
  | c :: rest =>
    if c == 'u' then (readHex4 rest).map Prod.snd
    else if (escapedChar? c).isSome then .ok rest
    else stopAfterByte .invalidEscape (c :: rest)

def skipChars : (budget : Nat) → List Char → Except Stop (List Char)
  | 0, _ => stopAt .endInString []
  | _ + 1, [] => stopAt .endInString []
  | budget + 1, c :: rest =>
    if c == '"' then .ok rest
    else if c == '\\' then do
      let rest ← skipEscape rest
      skipChars budget rest
    else if c.toNat < 0x20 then stopAt .controlCharacter (c :: rest)
    else skipChars budget rest

/-- A string after its opening quote, skipped. -/
def skipString (text : List Char) : Except Stop (List Char) :=
  skipChars (text.length + 1) text

end ShaderHandles.Json
