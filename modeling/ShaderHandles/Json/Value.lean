import ShaderHandles.Json.Number
import ShaderHandles.Json.Literal

/-!
# Values of a document

* `readScalar`: a value without parts.
* `readText`, `readFlag`, `readList`: a value of the kind that is wanted, or a stop that names both
  kinds.
* `readValue`: any value, with a limit to its depth.
* `skipValue`: any value, in a looser form and without a limit.
* `Value.write`: a value in its compact form.
-/

namespace ShaderHandles.Json

/-- A value of a document. The members of an object stay in order, repeated keys included. -/
inductive Value where
  | scalar (value : Scalar)
  | list (elements : List Value)
  | object (members : List (String × Value))

namespace Value

def string (s : String) : Value := .scalar (.string s)

def boolean (b : Bool) : Value := .scalar (.boolean b)

def found : Value → Found
  | scalar value => .scalar value
  | list _ => .sequence
  | object _ => .map

end Value

/-! ## Values without parts -/

/-- The rest of a word whose first letter has been read. -/
def readWord : (word : List Char) → List Char → Except Stop (List Char)
  | [], text => .ok text
  | _ :: _, [] => stopAt .endInValue []
  | c :: word, head :: rest =>
    if head == c then readWord word rest else stopAfterByte .expectedIdent (head :: rest)

/-- A value without parts; the text begins with it. -/
def readScalar (text : List Char) : Except Stop (Left Scalar) :=
  match text with
  | [] => stopAfterByte .endInValue []
  | 'n' :: rest => do return (.null, ← readWord "ull".toList rest)
  | 't' :: rest => do return (.boolean true, ← readWord "rue".toList rest)
  | 'f' :: rest => do return (.boolean false, ← readWord "alse".toList rest)
  | '"' :: rest => do
    let (s, rest) ← readString rest
    return (.string s, rest)
  | '-' :: rest => do
    let (n, rest) ← readNumber false rest
    return (.number n, rest)
  | c :: rest =>
    if c.isDigit then do
      let (n, rest) ← readNumber true (c :: rest)
      return (.number n, rest)
    else stopAfterByte .expectedValue (c :: rest)

/-! ## Values of a wanted kind -/

/-- The stop at a value of another kind than the wanted one. A value without parts is read first,
and stops on its own account if it is malformed. -/
def wrongKind {α : Type} (wanted : Wanted) (text : List Char) : Except Stop α :=
  match text with
  | '[' :: _ => stopAt (.invalidType .sequence wanted) text
  | '\x7b' :: _ => stopAt (.invalidType .map wanted) text
  | _ => do
    let (value, rest) ← readScalar text
    stopAt (.invalidType (.scalar value) wanted) rest

def readStringAs (wanted : Wanted) (text : List Char) : Except Stop (Left String) :=
  match skipBlanks text with
  | '"' :: rest => readString rest
  | text => wrongKind wanted text

def readText (text : List Char) : Except Stop (Left String) := readStringAs .string text

def readFlag (text : List Char) : Except Stop (Left Bool) :=
  match skipBlanks text with
  | 't' :: rest => do return (true, ← readWord "rue".toList rest)
  | 'f' :: rest => do return (false, ← readWord "alse".toList rest)
  | text => wrongKind .boolean text

/-- A list whose elements are all read in one way. -/
def readList {α : Type} (read : List Char → Except Stop (Left α)) (text : List Char) :
    Except Stop (Left (List α)) :=
  match skipBlanks text with
  | '[' :: rest => inBrackets (readElements read (rest.length + 1) true) rest
  | text => wrongKind .sequence text

/-! ## Any value -/

/-- The members of an object up to its closing brace. -/
def readMembers {α : Type} (read : List Char → Except Stop (Left α)) :
    (budget : Nat) → (isFirst : Bool) → List Char → Except Stop (Left (List (String × α)))
  | 0, _, text => stopAfterByte .endInObject text
  | budget + 1, isFirst, text => do
    match ← nextKey isFirst text with
    | .ending rest => return ([], rest)
    | .item rest =>
      let (key, rest) ← readString rest
      let rest ← readColon rest
      let (value, rest) ← read rest
      let (members, rest) ← readMembers read budget false rest
      return ((key, value) :: members, rest)

/-- Any value with at most `room` lists and objects inside of each other. -/
def readValue (room : Nat) (text : List Char) : Except Stop (Left Value) :=
  match skipBlanks text with
  | '[' :: rest =>
    match room with
    | 0 => stopAfterByte .tooDeep ('[' :: rest)
    | room + 1 => do
      let (elements, rest) ←
        inBrackets (readElements (readValue room) (rest.length + 1) true) rest
      return (.list elements, rest)
  | '\x7b' :: rest =>
    match room with
    | 0 => stopAfterByte .tooDeep ('\x7b' :: rest)
    | room + 1 => do
      let (members, rest) ←
        inBraces (readMembers (readValue room) (rest.length + 1) true) rest
      return (.object members, rest)
  | text => do
    let (value, rest) ← readScalar text
    return (.scalar value, rest)

/-! ## Skipping -/

/-- The rest of a list after its opening bracket or after an element. -/
def skipElements (skip : List Char → Except Stop (List Char)) :
    (budget : Nat) → (isFirst : Bool) → List Char → Except Stop (List Char)
  | 0, _, text => stopAfterByte .endInList text
  | budget + 1, isFirst, text =>
    match skipBlanks text with
    | [] => stopAfterByte .endInList []
    | ']' :: rest => .ok rest
    | c :: rest =>
      if isFirst then do
        let rest ← skip (c :: rest)
        skipElements skip budget false rest
      else if c == ',' then do
        let rest ← skip rest
        skipElements skip budget false rest
      else stopAfterByte .expectedListEnd (c :: rest)

/-- A member of an object, from its key on. -/
def skipMember (skip : List Char → Except Stop (List Char)) (text : List Char) :
    Except Stop (List Char) :=
  match skipBlanks text with
  | [] => stopAfterByte .endInObject []
  | '"' :: rest => do
    let rest ← skipString rest
    let rest ← readColon rest
    skip rest
  | text => stopAfterByte .keyNotString text

/-- The rest of an object after its opening brace or after a member. -/
def skipMembers (skip : List Char → Except Stop (List Char)) :
    (budget : Nat) → (isFirst : Bool) → List Char → Except Stop (List Char)
  | 0, _, text => stopAfterByte .endInObject text
  | budget + 1, isFirst, text =>
    match skipBlanks text with
    | [] => stopAfterByte .endInObject []
    | '\x7d' :: rest => .ok rest
    | c :: rest =>
      if isFirst then do
        let rest ← skipMember skip (c :: rest)
        skipMembers skip budget false rest
      else if c == ',' then do
        let rest ← skipMember skip rest
        skipMembers skip budget false rest
      else stopAfterByte .expectedObjectEnd (c :: rest)

/-- Any value, skipped. Every level takes a bracket, so a budget over the length of the text is
never used up. -/
def skipNested : (budget : Nat) → List Char → Except Stop (List Char)
  | 0, text => stopAfterByte .endInValue text
  | budget + 1, text =>
    match skipBlanks text with
    | [] => stopAfterByte .endInValue []
    | 'n' :: rest => readWord "ull".toList rest
    | 't' :: rest => readWord "rue".toList rest
    | 'f' :: rest => readWord "alse".toList rest
    | '"' :: rest => skipString rest
    | '-' :: rest => skipNumber rest
    | '[' :: rest => skipElements (skipNested budget) (rest.length + 1) true rest
    | '\x7b' :: rest => skipMembers (skipNested budget) (rest.length + 1) true rest
    | text =>
      if startsWithDigit text then skipNumber text else stopAfterByte .expectedValue text

def skipValue (text : List Char) : Except Stop (List Char) := skipNested (text.length + 1) text

/-! ## Writing -/

/-- The compact form of a value without parts. -/
def Scalar.write : Scalar → List Char
  | null => "null".toList
  | boolean b => (if b then "true" else "false").toList
  | number (.integer n) => (toString n).toList
  | number (.float x) => (floatText x).toList
  | string s => encodeString s

/-- Texts with commas between them. -/
def withCommas : List (List Char) → List Char
  | [] => []
  | [text] => text
  | text :: rest => text ++ ',' :: withCommas rest

mutual

/-- The compact form of a value, without blanks. -/
def Value.write : Value → List Char
  | .scalar value => value.write
  | .list elements => '[' :: withCommas (writeElements elements) ++ [']']
  | .object members => '\x7b' :: withCommas (writeMembers members) ++ ['\x7d']

def writeElements : List Value → List (List Char)
  | [] => []
  | element :: rest => element.write :: writeElements rest

/-- The compact forms of the members of an object. -/
def writeMembers : List (String × Value) → List (List Char)
  | [] => []
  | (key, value) :: rest => (encodeString key ++ ':' :: value.write) :: writeMembers rest

end

/-- The compact text of a value. -/
def Value.text (value : Value) : String := String.ofList value.write

end ShaderHandles.Json
