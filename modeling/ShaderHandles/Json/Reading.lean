import ShaderHandles.Json.Fault

/-!
# Reading a document

A reader takes what is left of the text and gives a value together with what is left after it, or
stops. A stop that is caused by the form of the text has its place at once. A stop that is caused by
the data waits for the list or object around it, which tries to come to its own end first and then
gives its place.

* `Mark.position`: line and column of a place.
* `inBrackets`, `inBraces`: what is read inside a list or an object, and the way out of it.
* `readAll`: a whole document.
-/

namespace ShaderHandles.Json

/-! ## Places -/

/-- A place of a text: what is left of the text, and how many bytes of its first character have been
taken already. -/
structure Mark where
  rest : List Char
  bytes : Nat := 0

/-- Line and column. -/
structure Position where
  line : Nat := 1
  column : Nat := 0
  deriving DecidableEq

namespace Position

def afterBytes (position : Position) (c : Char) (bytes : Nat) : Position :=
  if c == '\n' then { line := position.line + 1 }
  else { position with column := position.column + bytes }

def after (position : Position) (c : Char) : Position := position.afterBytes c c.utf8Size

end Position

/-- The position of a place in a text. -/
def Mark.position (source : List Char) (mark : Mark) : Position :=
  let read := source.take (source.length - mark.rest.length)
  let position := read.foldl Position.after {}
  match mark.rest, mark.bytes with
  | c :: _, bytes + 1 => position.afterBytes c (bytes + 1)
  | _, _ => position

/-- The place after some bytes of a text. -/
def Mark.afterBytes : (count : Nat) → List Char → Mark
  | _, [] => ⟨[], 0⟩
  | count, c :: rest =>
    if c.utf8Size ≤ count then Mark.afterBytes (count - c.utf8Size) rest
    else ⟨c :: rest, count⟩

/-! ## Stops -/

/-- Why a reader stopped, and where: at a place, or with what is left when the data was refused. -/
inductive Stop where
  | located (cause : Cause) (mark : Mark)
  | pending (cause : Cause) (rest : List Char)

/-- A value that has been read, and what is left of the text. -/
abbrev Left (α : Type) := α × List Char

/-- A stop before what is left. -/
def stopAt {α : Type} (cause : Cause) (rest : List Char) : Except Stop α :=
  .error (.located cause ⟨rest, 0⟩)

/-- A stop after the next byte, if there is one. -/
def stopAfterByte {α : Type} (cause : Cause) (rest : List Char) : Except Stop α :=
  .error (.located cause ⟨rest, 1⟩)

/-- Blanks between tokens. -/
def isBlank (c : Char) : Bool := c == ' ' || c == '\n' || c == '\t' || c == '\r'

/-- What is left after blanks. -/
def skipBlanks (text : List Char) : List Char := text.dropWhile isBlank

def Stop.fault (source : List Char) : Stop → Fault
  | located cause mark =>
    let position := mark.position source
    ⟨cause, position.line, position.column⟩
  | pending cause rest =>
    let position := Mark.position source ⟨rest, 0⟩
    ⟨cause, position.line, position.column⟩

/-! ## The ends of lists and objects -/

/-- The attempt to end a list: what is wrong with its end, if anything, and what is left. -/
def closeList (text : List Char) : Option Stop × List Char :=
  match skipBlanks text with
  | ']' :: rest => (none, rest)
  | ',' :: rest =>
    match skipBlanks rest with
    | ']' :: rest => (some (.located .trailingComma ⟨']' :: rest, 1⟩), ']' :: rest)
    | rest => (some (.located .trailingCharacters ⟨rest, 1⟩), rest)
  | [] => (some (.located .endInList ⟨[], 1⟩), [])
  | rest => (some (.located .trailingCharacters ⟨rest, 1⟩), rest)

/-- The attempt to end an object. -/
def closeObject (text : List Char) : Option Stop × List Char :=
  match skipBlanks text with
  | '\x7d' :: rest => (none, rest)
  | ',' :: rest => (some (.located .trailingComma ⟨',' :: rest, 1⟩), ',' :: rest)
  | [] => (some (.located .endInObject ⟨[], 1⟩), [])
  | rest => (some (.located .trailingCharacters ⟨rest, 1⟩), rest)

/-- What a reader gives inside of something that `close` ends. A waiting stop gets its place after
the attempt to end it, and a stop of the attempt itself only counts if there is no other. -/
def enclosed {α : Type} (close : List Char → Option Stop × List Char) :
    Except Stop (Left α) → Except Stop (Left α)
  | .error (.located cause mark) => .error (.located cause mark)
  | .error (.pending cause rest) => stopAt cause (close rest).2
  | .ok (value, rest) =>
    match close rest with
    | (none, rest) => .ok (value, rest)
    | (some stop, _) => .error stop

/-- What is read between brackets; the text begins after the opening one. -/
def inBrackets {α : Type} (read : List Char → Except Stop (Left α)) (text : List Char) :
    Except Stop (Left α) :=
  enclosed closeList (read text)

/-- What is read between braces; the text begins after the opening one. -/
def inBraces {α : Type} (read : List Char → Except Stop (Left α)) (text : List Char) :
    Except Stop (Left α) :=
  enclosed closeObject (read text)

/-! ## Steps through lists and objects -/

/-- Where a step through a list or an object comes to. -/
inductive Arrival where
  /-- At an element, or at a key after its opening quote. -/
  | item (rest : List Char)
  /-- At the closing bracket or brace. -/
  | ending (rest : List Char)

def nextElement (isFirst : Bool) (text : List Char) : Except Stop Arrival :=
  match skipBlanks text with
  | [] => stopAfterByte .endInList []
  | ']' :: rest => .ok (.ending (']' :: rest))
  | c :: rest =>
    if isFirst then .ok (.item (c :: rest))
    else if c == ',' then
      match skipBlanks rest with
      | [] => stopAfterByte .endInValue []
      | ']' :: rest => stopAfterByte .trailingComma (']' :: rest)
      | rest => .ok (.item rest)
    else stopAfterByte .expectedListEnd (c :: rest)

def nextKey (isFirst : Bool) (text : List Char) : Except Stop Arrival :=
  match skipBlanks text with
  | [] => stopAfterByte .endInObject []
  | '\x7d' :: rest => .ok (.ending ('\x7d' :: rest))
  | c :: rest =>
    if isFirst then
      if c == '"' then .ok (.item rest) else stopAfterByte .keyNotString (c :: rest)
    else if c == ',' then
      match skipBlanks rest with
      | [] => stopAfterByte .endInValue []
      | '"' :: rest => .ok (.item rest)
      | '\x7d' :: rest => stopAfterByte .trailingComma ('\x7d' :: rest)
      | rest => stopAfterByte .keyNotString rest
    else stopAfterByte .expectedObjectEnd (c :: rest)

/-- The step over the colon after a key. -/
def readColon (text : List Char) : Except Stop (List Char) :=
  match skipBlanks text with
  | [] => stopAfterByte .endInObject []
  | ':' :: rest => .ok rest
  | rest => stopAfterByte .expectedColon rest

/-- The elements of a list up to its closing bracket. Every element takes at least one character, so
a budget over the length of the text is never used up. -/
def readElements {α : Type} (read : List Char → Except Stop (Left α)) :
    (budget : Nat) → (isFirst : Bool) → List Char → Except Stop (Left (List α))
  | 0, _, text => stopAfterByte .endInList text
  | budget + 1, isFirst, text => do
    match ← nextElement isFirst text with
    | .ending rest => return ([], rest)
    | .item rest =>
      let (element, rest) ← read rest
      let (elements, rest) ← readElements read budget false rest
      return (element :: elements, rest)

/-- A whole document: one value, and nothing but blanks after it. -/
def readAll {α : Type} (read : List Char → Except Stop (Left α)) (source : String) :
    Except Fault α :=
  let text := source.toList
  match read text with
  | .error stop => .error (stop.fault text)
  | .ok (value, rest) =>
    match skipBlanks rest with
    | [] => .ok value
    | rest => .error ((Stop.located .trailingCharacters ⟨rest, 1⟩).fault text)

end ShaderHandles.Json
