/-!
# Reading bytes as text

Bytes that are no UTF-8 can still be shown: every longest beginning of a character that does not
become one is shown as one replacement character, as is every byte that begins none.

* `decodeLossy`: the text of a byte string.
-/

namespace ShaderHandles.Text

/-- The character that stands for bytes that are none. -/
def replacement : Char := '\ufffd'

/-- What a first byte asks for: the number of bytes after it, the range of the next one, and the
bits that it brings. -/
structure Lead where
  following : Nat
  least : Nat
  greatest : Nat
  bits : Nat

/-- What a first byte asks for, if it begins a character of several bytes. -/
def lead? (byte : Nat) : Option Lead :=
  if 0xc2 ≤ byte ∧ byte ≤ 0xdf then some ⟨1, 0x80, 0xbf, byte - 0xc0⟩
  else if byte = 0xe0 then some ⟨2, 0xa0, 0xbf, 0⟩
  else if byte = 0xed then some ⟨2, 0x80, 0x9f, 0xd⟩
  else if 0xe1 ≤ byte ∧ byte ≤ 0xef then some ⟨2, 0x80, 0xbf, byte - 0xe0⟩
  else if byte = 0xf0 then some ⟨3, 0x90, 0xbf, 0⟩
  else if byte = 0xf4 then some ⟨3, 0x80, 0x8f, 4⟩
  else if 0xf1 ≤ byte ∧ byte ≤ 0xf3 then some ⟨3, 0x80, 0xbf, byte - 0xf0⟩
  else none

/-- The characters of bytes. An open character stands with what it still asks for. -/
def decodeFrom : Option Lead → List UInt8 → List Char
  | none, [] => []
  | some _, [] => [replacement]
  | state, byte :: rest =>
    let byte := byte.toNat
    let fresh : List Char :=
      if byte < 0x80 then Char.ofNat byte :: decodeFrom none rest
      else
        match lead? byte with
        | some lead => decodeFrom (some lead) rest
        | none => replacement :: decodeFrom none rest
    match state with
    | none => fresh
    | some lead =>
      if lead.least ≤ byte ∧ byte ≤ lead.greatest then
        let bits := lead.bits * 64 + (byte - 0x80)
        if lead.following ≤ 1 then Char.ofNat bits :: decodeFrom none rest
        else decodeFrom (some ⟨lead.following - 1, 0x80, 0xbf, bits⟩) rest
      else replacement :: fresh

/-- The text of a byte string. -/
def decodeLossy (bytes : ByteArray) : String := String.ofList (decodeFrom none bytes.toList)

end ShaderHandles.Text
