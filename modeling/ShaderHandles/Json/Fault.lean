import ShaderHandles.Decimal.Shortest
import ShaderHandles.Text.Quoted

/-!
# Faults of a JSON document

A fault has a cause and a place. Some causes concern the form of the text; the others say that a
well-formed text does not hold the data that is wanted.

* `Cause.message`, `Fault.message`: the wording.
-/

namespace ShaderHandles.Json

/-! ## What was found -/

/-- A number: an integer that a 64-bit word can hold, or a floating-point number. -/
inductive Number where
  | integer (n : Int)
  | float (x : Float)

/-- A value without parts. -/
inductive Scalar where
  | null
  | boolean (b : Bool)
  | number (n : Number)
  | string (s : String)

/-- The kind of a value, with the value itself where it has no parts. -/
inductive Found where
  | scalar (value : Scalar)
  | sequence
  | map

/-- Floating-point numbers are written positionally from `10 ^ -5` to below `10 ^ 16`. -/
def floatStyle : Decimal.Style where
  leastPositional := -5
  greatestPositional := 15

/-- The text of a finite floating-point number. -/
def floatText (x : Float) : String :=
  (if x.toBits >>> 63 = 1 then "-" else "") ++
    floatStyle.render (Decimal.Binary.ofFloat x).shortest

/-- What was found, as messages name it. -/
def Found.describe : Found → String
  | scalar .null => "null"
  | scalar (.boolean b) => "boolean `" ++ (if b then "true" else "false") ++ "`"
  | scalar (.number (.integer n)) => "integer `" ++ toString n ++ "`"
  | scalar (.number (.float x)) => "floating point `" ++ floatText x ++ "`"
  | scalar (.string s) => "string " ++ Text.quoted s
  | sequence => "sequence"
  | map => "map"

/-! ## What was wanted -/

/-- The kind of value that a place of a document asks for. -/
inductive Wanted where
  | string
  | boolean
  | sequence
  | record (name : String)
  | tagged (name : String)
  | variant
  deriving DecidableEq

/-- What was wanted, as messages name it. -/
def Wanted.describe : Wanted → String
  | string => "a string"
  | boolean => "a boolean"
  | sequence => "a sequence"
  | record name => "struct " ++ name
  | tagged name => "internally tagged enum " ++ name
  | variant => "variant identifier"

/-! ## Causes -/

/-- Why a text is not the document that is wanted. -/
inductive Cause where
  | endInValue
  | endInString
  | endInList
  | endInObject
  | expectedColon
  | expectedListEnd
  | expectedObjectEnd
  | expectedIdent
  | expectedValue
  | invalidEscape
  | invalidNumber
  | numberOutOfRange
  | loneSurrogate
  | endOfHexEscape
  | controlCharacter
  | keyNotString
  | trailingComma
  | trailingCharacters
  | tooDeep
  /-- A value of another kind than the wanted one. -/
  | invalidType (found : Found) (wanted : Wanted)
  /-- A list with too few elements for the fields of a record. -/
  | tooShort (length : Nat) (record : String) (fields : Nat)
  /-- A list with too many elements for the fields of a record. -/
  | tooLong (length fields : Nat)
  | duplicateField (name : String)
  | missingField (name : String)
  | unknownVariant (name : String) (known : List String)

/-- The sentence that names a cause. -/
def Cause.message : Cause → String
  | endInValue => "EOF while parsing a value"
  | endInString => "EOF while parsing a string"
  | endInList => "EOF while parsing a list"
  | endInObject => "EOF while parsing an object"
  | expectedColon => "expected `:`"
  | expectedListEnd => "expected `,` or `]`"
  | expectedObjectEnd => "expected `,` or `\x7d`"
  | expectedIdent => "expected ident"
  | expectedValue => "expected value"
  | invalidEscape => "invalid escape"
  | invalidNumber => "invalid number"
  | numberOutOfRange => "number out of range"
  | loneSurrogate => "lone leading surrogate in hex escape"
  | endOfHexEscape => "unexpected end of hex escape"
  | controlCharacter => "control character (\\u0000-\\u001F) found while parsing a string"
  | keyNotString => "key must be a string"
  | trailingComma => "trailing comma"
  | trailingCharacters => "trailing characters"
  | tooDeep => "recursion limit exceeded"
  | invalidType found wanted =>
    "invalid type: " ++ found.describe ++ ", expected " ++ wanted.describe
  | tooShort length record fields =>
    "invalid length " ++ toString length ++ ", expected struct " ++ record ++ " with " ++
      toString fields ++ " elements"
  | tooLong length fields =>
    "invalid length " ++ toString length ++ ", expected " ++ toString fields ++
      " elements in sequence"
  | duplicateField name => "duplicate field `" ++ name ++ "`"
  | missingField name => "missing field `" ++ name ++ "`"
  | unknownVariant name known =>
    "unknown variant `" ++ name ++ "`, expected " ++
      String.intercalate " or " (known.map fun name => "`" ++ name ++ "`")

/-- A cause and its place: the line counts from one, the column in bytes from the line's start. -/
structure Fault where
  cause : Cause
  line : Nat
  column : Nat

/-- The sentence that reports a fault. -/
def Fault.message (fault : Fault) : String :=
  fault.cause.message ++ " at line " ++ toString fault.line ++ " column " ++ toString fault.column

end ShaderHandles.Json
