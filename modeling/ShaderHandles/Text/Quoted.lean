import ShaderHandles.Text.Hex
import ShaderHandles.Text.Invisible

/-!
# Quoted text in messages

Messages show a text between double quotes so that its ends and its invisible characters can be
seen. The quote and the backslash are written after a backslash, four frequent controls by a letter,
and every other invisible character by its number in hexadecimal digits.

* `quoted`: the text as messages show it.
-/

namespace ShaderHandles.Text

def quotedChar (c : Char) : String :=
  if c == '\x00' then "\\0"
  else if c == '\t' then "\\t"
  else if c == '\r' then "\\r"
  else if c == '\n' then "\\n"
  else if c == '"' then "\\\""
  else if c == '\\' then "\\\\"
  else if isInvisible c then "\\u\x7b" ++ hexDigits c.toNat ++ "\x7d"
  else c.toString

/-- A text between double quotes, with its invisible characters written out. -/
def quoted (text : String) : String :=
  "\"" ++ String.join (text.toList.map quotedChar) ++ "\""

end ShaderHandles.Text
