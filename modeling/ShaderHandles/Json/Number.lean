import ShaderHandles.Json.Reading

/-!
# Numbers of a document

A number without fraction and exponent is an integer if a 64-bit word can hold it; a signed word
holds the negative ones. Every other number is a floating-point number: its digits are read into a
64-bit significand, as many as it can hold, and the result is scaled by a power of ten.

* `readNumber`: a number, read in full.
* `skipNumber`: the same form, without its value.
-/

namespace ShaderHandles.Json

/-- Significands stay below this bound. -/
def significandBound : Nat := 0x10000000000000000

/-- The greatest exponent that is read digit by digit. -/
def exponentLimit : Nat := 0x7fffffff

/-- The greatest absolute value of a negative integer. -/
def negativeLimit : Nat := 0x8000000000000000

def digitValue (c : Char) : Nat := c.toNat - '0'.toNat

def startsWithDigit : List Char → Bool
  | c :: _ => c.isDigit
  | [] => false

/-- Whether a text goes on with the mark of an exponent. -/
def startsWithExponent : List Char → Bool
  | c :: _ => c == 'e' || c == 'E'
  | [] => false

/-- What is left after digits. -/
def skipDigits (text : List Char) : List Char := text.dropWhile Char.isDigit

/-! ## Scaling -/

/-- A power of ten that a floating-point number can hold. -/
def powerOfTen (n : Nat) : Float := Float.ofScientific 1 false n

/-- A significand times a power of ten. Powers go up to 308; below, a second division follows, and
three of them leave nothing of any significand. -/
def scale (significand : Nat) (exponent : Int) : Option Float :=
  let x := significand.toUInt64.toFloat
  if 0 ≤ exponent then
    if significand = 0 then some x
    else if 308 < exponent then none
    else
      let y := x * powerOfTen exponent.toNat
      if y.isInf then none else some y
  else
    let n := (-exponent).toNat
    if n ≤ 308 then some (x / powerOfTen n)
    else if n ≤ 616 then some (x / powerOfTen 308 / powerOfTen (n - 308))
    else some (x / powerOfTen 308 / powerOfTen 308)

/-- The number of a sign and an absolute value. -/
def signed (isPositive : Bool) (x : Float) : Number := .float (if isPositive then x else -x)

/-- The floating-point number that has been read. -/
def finishFloat (isPositive : Bool) (significand : Nat) (exponent : Int) (rest : List Char) :
    Except Stop (Left Number) :=
  match scale significand exponent with
  | some x => .ok (signed isPositive x, rest)
  | none => stopAt .numberOutOfRange rest

/-! ## Digits -/

/-- The digits that a significand can still take: the significand with them, their number, and what
is left. -/
def takeDigits (significand : Nat) : List Char → Nat × Nat × List Char
  | [] => (significand, 0, [])
  | c :: rest =>
    if c.isDigit && significand * 10 + digitValue c < significandBound then
      let (total, count, rest) := takeDigits (significand * 10 + digitValue c) rest
      (total, count + 1, rest)
    else (significand, 0, c :: rest)

/-- The digits of an exponent: its value, or nothing once it passes the limit, and what is left. -/
def takeExponent (exponent : Nat) : List Char → Option Nat × List Char
  | [] => (some exponent, [])
  | c :: rest =>
    if c.isDigit then
      if exponentLimit < exponent * 10 + digitValue c then (none, rest)
      else takeExponent (exponent * 10 + digitValue c) rest
    else (some exponent, c :: rest)

/-! ## Reading -/

/-- The sign of an exponent: whether it is positive, and what is left. -/
def readExponentSign : List Char → Bool × List Char
  | '+' :: rest => (true, rest)
  | '-' :: rest => (false, rest)
  | text => (true, text)

/-- What follows the mark of an exponent. -/
def readExponent (isPositive : Bool) (significand : Nat) (exponent : Int) (text : List Char) :
    Except Stop (Left Number) :=
  let (grows, text) := readExponentSign text
  if text.isEmpty then stopAt .endInValue []
  else if !startsWithDigit text then stopAfterByte .invalidNumber text
  else
    match takeExponent 0 text with
    | (some n, rest) =>
      finishFloat isPositive significand (if grows then exponent + n else exponent - n) rest
    | (none, rest) =>
      if significand ≠ 0 ∧ grows then stopAt .numberOutOfRange rest
      else .ok (signed isPositive 0, skipDigits rest)

/-- What follows the digits of a number: an exponent, or nothing. -/
def readScale (isPositive : Bool) (significand : Nat) (exponent : Int) (text : List Char) :
    Except Stop (Left Number) :=
  if startsWithExponent text then readExponent isPositive significand exponent (text.drop 1)
  else finishFloat isPositive significand exponent text

/-- What follows the point. -/
def readFraction (isPositive : Bool) (significand : Nat) (exponent : Int) (text : List Char) :
    Except Stop (Left Number) :=
  let (significand, count, rest) := takeDigits significand text
  if startsWithDigit rest then
    readScale isPositive significand (exponent - count) (skipDigits rest)
  else if count = 0 then
    stopAfterByte (if rest.isEmpty then .endInValue else .invalidNumber) rest
  else readScale isPositive significand (exponent - count) rest

/-- The number of an integer that has been read. -/
def ofInteger (isPositive : Bool) (significand : Nat) : Number :=
  if isPositive then .integer significand
  else if 0 < significand ∧ significand ≤ negativeLimit then .integer (-significand)
  else signed false significand.toUInt64.toFloat

/-- What follows the whole part. -/
def readRest (isPositive : Bool) (significand : Nat) (text : List Char) :
    Except Stop (Left Number) :=
  match text with
  | '.' :: rest => readFraction isPositive significand 0 rest
  | text =>
    if startsWithExponent text then readScale isPositive significand 0 text
    else .ok (ofInteger isPositive significand, text)

/-- What follows the whole part when the significand could not take all its digits. -/
def readLong (isPositive : Bool) (significand : Nat) (text : List Char) :
    Except Stop (Left Number) :=
  let exponent := (text.takeWhile Char.isDigit).length
  match skipDigits text with
  | '.' :: rest => readFraction isPositive significand exponent rest
  | rest => readScale isPositive significand exponent rest

/-- A number after its sign. -/
def readNumber (isPositive : Bool) (text : List Char) : Except Stop (Left Number) :=
  match text with
  | [] => stopAt .endInValue []
  | '0' :: rest =>
    if startsWithDigit rest then stopAfterByte .invalidNumber rest
    else readRest isPositive 0 rest
  | c :: rest =>
    if c.isDigit then
      let (significand, _, rest) := takeDigits 0 (c :: rest)
      if startsWithDigit rest then readLong isPositive significand rest
      else readRest isPositive significand rest
    else stopAfterByte .invalidNumber (c :: rest)

/-! ## Skipping -/

/-- What follows the mark of an exponent, skipped. -/
def skipExponent (text : List Char) : Except Stop (List Char) :=
  let (_, text) := readExponentSign text
  if startsWithDigit text then .ok (skipDigits text) else stopAfterByte .invalidNumber text

/-- What follows the digits of a number, skipped. -/
def skipScale (text : List Char) : Except Stop (List Char) :=
  if startsWithExponent text then skipExponent (text.drop 1) else .ok text

/-- What follows the whole part, skipped. -/
def skipRest (text : List Char) : Except Stop (List Char) :=
  match text with
  | '.' :: rest =>
    if startsWithDigit rest then skipScale (skipDigits rest)
    else stopAfterByte .invalidNumber rest
  | text => skipScale text

def skipNumber (text : List Char) : Except Stop (List Char) :=
  match text with
  | '0' :: rest =>
    if startsWithDigit rest then stopAfterByte .invalidNumber rest else skipRest rest
  | text =>
    if startsWithDigit text then skipRest (skipDigits text)
    else stopAfterByte .invalidNumber text

end ShaderHandles.Json
