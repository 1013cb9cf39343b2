import ShaderHandles.Json.Value

/-!
# Records of a document

A record is written as an object whose keys are its fields. It is read from such an object, with the
keys in any order and other keys ignored, or from a list of the values of its fields in order. A key
that comes twice is refused.

* `readRecord`: a record of the text. Every field may be missing and then keeps its value.
* `decodeRecord`: a record of a value that was read before. Required fields must be there.
* `writeRecord`: the object of a record.
-/

namespace ShaderHandles.Json

/-! ## Records of the text -/

/-- A key of a record of the text: its name, the way into the record, and the way out. -/
structure Key (σ : Type) where
  name : String
  read : σ → List Char → Except Stop (Left σ)
  value : σ → Value

namespace Key

variable {σ : Type}

/-- A field that is read as a value of its own. -/
def ofReader {α : Type} (name : String) (read : List Char → Except Stop (Left α))
    (value : α → Value) (get : σ → α) (set : σ → α → σ) : Key σ where
  name
  read record text := do
    let (a, rest) ← read text
    return (set record a, rest)
  value record := value (get record)

/-- A field that holds a string. -/
def text (name : String) (get : σ → String) (set : σ → String → σ) : Key σ :=
  ofReader name readText Value.string get set

/-- A field that holds a truth value. -/
def flag (name : String) (get : σ → Bool) (set : σ → Bool → σ) : Key σ :=
  ofReader name readFlag Value.boolean get set

def texts (name : String) (get : σ → List String) (set : σ → List String → σ) : Key σ :=
  ofReader name (readList readText) (fun names => .list (names.map Value.string)) get set

end Key

/-- The members of a record up to its closing brace. `seen` holds the keys of fields so far. -/
def readKeys {σ : Type} (keys : List (Key σ)) :
    (budget : Nat) → (isFirst : Bool) → (seen : List String) → σ → List Char →
      Except Stop (Left σ)
  | 0, _, _, _, text => stopAfterByte .endInObject text
  | budget + 1, isFirst, seen, record, text => do
    match ← nextKey isFirst text with
    | .ending rest => return (record, rest)
    | .item rest =>
      let (word, rest) ← readString rest
      match keys.find? (·.name == word) with
      | some key =>
        if word ∈ seen then
          .error (.pending (.duplicateField word) rest)
        else
          let rest ← readColon rest
          let (record, rest) ← key.read record rest
          readKeys keys budget false (word :: seen) record rest
      | none =>
        let rest ← readColon rest
        let rest ← skipValue rest
        readKeys keys budget false seen record rest

/-- The values of a record's fields in order, up to the last one that the list holds. -/
def readInOrder {σ : Type} :
    List (Key σ) → (isFirst : Bool) → σ → List Char → Except Stop (Left σ)
  | [], _, record, text => .ok (record, text)
  | key :: keys, isFirst, record, text => do
    match ← nextElement isFirst text with
    | .ending rest => return (record, rest)
    | .item rest =>
      let (record, rest) ← key.read record rest
      readInOrder keys false record rest

/-- A record, which starts from the values that its missing fields keep. -/
def readRecord {σ : Type} (name : String) (keys : List (Key σ)) (start : σ)
    (text : List Char) : Except Stop (Left σ) :=
  match skipBlanks text with
  | '[' :: rest => inBrackets (readInOrder keys true start) rest
  | '\x7b' :: rest => inBraces (readKeys keys (rest.length + 1) true [] start) rest
  | text => wrongKind (.record name) text

def writeRecord {σ : Type} (keys : List (Key σ)) (record : σ) : Value :=
  .object (keys.map fun key => (key.name, key.value record))

/-- A field that holds a record of its own. -/
def Key.ofRecord {σ τ : Type} (name record : String) (keys : List (Key τ)) (start : τ)
    (get : σ → τ) (set : σ → τ → σ) : Key σ :=
  Key.ofReader name (readRecord record keys start) (writeRecord keys) get set

/-! ## Records of a value -/

def decodeText : Value → Except Cause String
  | .scalar (.string s) => .ok s
  | value => .error (.invalidType value.found .string)

/-- The list that a value holds, each element decoded in one way. -/
def decodeList {α : Type} (decode : Value → Except Cause α) : Value → Except Cause (List α)
  | .list elements => elements.mapM decode
  | value => .error (.invalidType value.found .sequence)

/-- A field of a record of a value: its key, whether it must be there, the way into the record, and
the way out. -/
structure Slot (σ : Type) where
  key : String
  isRequired : Bool
  decode : σ → Value → Except Cause σ
  value : σ → Value

namespace Slot

variable {σ : Type}

def ofDecoder {α : Type} (key : String) (isRequired : Bool) (decode : Value → Except Cause α)
    (value : α → Value) (get : σ → α) (set : σ → α → σ) : Slot σ where
  key
  isRequired
  decode record v := do return set record (← decode v)
  value record := value (get record)

def text (key : String) (get : σ → String) (set : σ → String → σ) : Slot σ :=
  ofDecoder key true decodeText Value.string get set

def texts (key : String) (isRequired : Bool) (get : σ → List String)
    (set : σ → List String → σ) : Slot σ :=
  ofDecoder key isRequired (decodeList decodeText) (fun names => .list (names.map Value.string))
    get set

end Slot

/-- One member of an object that holds a record. The state holds the keys of fields so far. -/
def decodeMember {σ : Type} (slots : List (Slot σ)) (state : σ × List String)
    (member : String × Value) : Except Cause (σ × List String) :=
  match slots.find? (·.key == member.1) with
  | none => .ok state
  | some slot =>
    if member.1 ∈ state.2 then .error (.duplicateField member.1)
    else do return (← slot.decode state.1 member.2, member.1 :: state.2)

def decodeMembers {σ : Type} (slots : List (Slot σ)) (start : σ)
    (members : List (String × Value)) : Except Cause σ := do
  let (record, seen) ← members.foldlM (decodeMember slots) (start, [])
  match slots.find? fun slot => slot.isRequired && !seen.contains slot.key with
  | some slot => throw (.missingField slot.key)
  | none => return record

/-- The record that the elements of a list hold. `refuse` is given for a required field that the
list is too short for, and `excess` for elements after the last field. -/
def decodeInOrder {σ : Type} (refuse excess : Cause) :
    List (Slot σ) → σ → List Value → Except Cause σ
  | [], record, [] => .ok record
  | [], _, _ :: _ => .error excess
  | slot :: slots, record, [] =>
    if slot.isRequired then .error refuse else decodeInOrder refuse excess slots record []
  | slot :: slots, record, element :: elements => do
    let record ← slot.decode record element
    decodeInOrder refuse excess slots record elements

/-- The record that a value holds. -/
def decodeRecord {σ : Type} (name : String) (slots : List (Slot σ)) (start : σ) :
    Value → Except Cause σ
  | .object members => decodeMembers slots start members
  | .list elements =>
    decodeInOrder (.tooShort elements.length name slots.length)
      (.tooLong elements.length slots.length) slots start elements
  | value => .error (.invalidType value.found (.record name))

def slotMembers {σ : Type} (slots : List (Slot σ)) (record : σ) : List (String × Value) :=
  slots.map fun slot => (slot.key, slot.value record)

end ShaderHandles.Json
