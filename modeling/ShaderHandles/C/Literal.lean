/-!
# C string literals

* `quote`: a text between double quotes, as the generated code passes names and paths.
* `isQuotable`: the texts that stand for themselves between quotes: not empty, and without a double
  quote, a backslash or a control character.
-/

namespace ShaderHandles.C

/-- The control characters: U+0000 to U+001F and U+007F to U+009F. -/
def isControl (c : Char) : Bool :=
  c.val ≤ 0x1f || (0x7f ≤ c.val && c.val ≤ 0x9f)

def isLiteralChar (c : Char) : Bool :=
  !(c == '"' || c == '\\' || isControl c)

def isQuotable (text : String) : Bool :=
  !text.toList.isEmpty && text.toList.all isLiteralChar

/-- The text between double quotes, unchanged. -/
def quote (text : String) : String := "\"" ++ text ++ "\""

end ShaderHandles.C
