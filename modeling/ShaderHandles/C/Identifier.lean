/-!
# C identifiers

* `isIdentifier`: a letter or an underscore, then letters, digits and underscores, and no keyword
  of C99. Only ASCII letters and digits count.
-/

namespace ShaderHandles.C

/-- The keywords of C99, none of which can name a member. -/
def keywords : List String :=
  ["auto", "break", "case", "char", "const", "continue", "default", "do", "double", "else", "enum",
    "extern", "float", "for", "goto", "if", "inline", "int", "long", "register", "restrict",
    "return", "short", "signed", "sizeof", "static", "struct", "switch", "typedef", "union",
    "unsigned", "void", "volatile", "while", "_Bool", "_Complex", "_Imaginary"]

/-- A character that may begin an identifier. -/
def isIdentifierStart (c : Char) : Bool := c.isAlpha || c == '_'

/-- A character that may go on with an identifier. -/
def isIdentifierPart (c : Char) : Bool := c.isAlphanum || c == '_'

/-- Letters, digits and underscores that do not begin with a digit. -/
def isWord : List Char → Bool
  | [] => false
  | c :: rest => isIdentifierStart c && rest.all isIdentifierPart

def isIdentifier (name : String) : Bool :=
  isWord name.toList && !keywords.contains name

end ShaderHandles.C
