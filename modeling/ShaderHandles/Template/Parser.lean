import ShaderHandles.Template.Basic

/-!
# Reading templates

In the source of a template a value stands between double braces, and a tag between braces with a
dollar sign on their inner side. A line that holds only a tag leaves nothing in the text: the blanks
before a tag on its line and the line end after it are dropped. Everything else is kept, the last
line end included.

* `Template.scan`: the pieces of a source.
* `Template.build`: the template of a list of pieces, if loops and conditions are properly nested.
* `Template.parse`: both.
-/

namespace ShaderHandles.Template

inductive Piece where
  | text (fixed : String)
  | value (words : List String)
  | tag (words : List String)
  deriving DecidableEq

/-! ## Words and blanks -/

/-- The words of a list of characters, which blanks keep apart. -/
def wordsOf (current : List Char) : List Char → List String
  | [] => if current.isEmpty then [] else [String.ofList current.reverse]
  | c :: rest =>
    if c == ' ' then
      (if current.isEmpty then [] else [String.ofList current.reverse]) ++ wordsOf [] rest
    else wordsOf (c :: current) rest

/-- Text before a tag, last character first, without the blanks of an otherwise empty line. -/
def dropIndent (reversed : List Char) : List Char :=
  match reversed.dropWhile (· == ' ') with
  | [] => []
  | '\n' :: rest => '\n' :: rest
  | _ => reversed

/-! ## Scanning -/

/-- Where a scan stands: in text, in the place of a value, in a tag, or right after one. -/
inductive Mode where
  | text
  | value
  | tag
  | afterTag

/-- The pieces of what is left of a source. `current` holds the characters of the open piece, the
last one first. -/
def scan (mode : Mode) (current : List Char) : List Char → Option (List Piece)
  | [] =>
    match mode with
    | .text | .afterTag => some [.text (String.ofList current.reverse)]
    | _ => none
  | c :: rest =>
    match mode, c, rest with
    | .afterTag, '\n', rest => scan .text [] rest
    | .text, '\x7b', '\x7b' :: rest | .afterTag, '\x7b', '\x7b' :: rest =>
      (scan .value [] rest).map (.text (String.ofList current.reverse) :: ·)
    | .text, '\x7b', '$' :: rest | .afterTag, '\x7b', '$' :: rest =>
      (scan .tag [] rest).map (.text (String.ofList (dropIndent current).reverse) :: ·)
    | .value, '\x7d', '\x7d' :: rest =>
      (scan .text [] rest).map (.value (wordsOf [] current.reverse) :: ·)
    | .tag, '$', '\x7d' :: rest =>
      (scan .afterTag [] rest).map (.tag (wordsOf [] current.reverse) :: ·)
    | .afterTag, c, rest => scan .text (c :: current) rest
    | mode, c, rest => scan mode (c :: current) rest

/-! ## Nesting -/

/-- The tag that ends a part. -/
inductive Closing where
  | loop
  | condition
  deriving DecidableEq

/-- The template of the pieces that were already read from the right, with the templates that follow
the parts whose end was read and whose beginning was not. -/
structure Builder where
  current : Template := .done
  pending : List (Closing × Template) := []

namespace Builder

/-- Opens a part at its end. -/
def close (builder : Builder) (closing : Closing) : Builder where
  current := .done
  pending := (closing, builder.current) :: builder.pending

/-- Puts one more piece in front. -/
def add (piece : Piece) (builder : Builder) : Option Builder :=
  match piece, builder.pending with
  | .text fixed, _ =>
    if fixed.isEmpty then some builder
    else some { builder with current := .text fixed builder.current }
  | .value [name], _ => some { builder with current := .insert name builder.current }
  | .tag ["endfor"], _ => some (builder.close .loop)
  | .tag ["endif"], _ => some (builder.close .condition)
  | .tag ["for", item, "in", list], (.loop, next) :: pending =>
    some { current := .forEach item list builder.current next, pending }
  | .tag ["if", "not", "loop.last"], (.condition, next) :: pending =>
    some { current := .unlessLast builder.current next, pending }
  | _, _ => none

end Builder

def build (pieces : List Piece) : Option Template :=
  match pieces.foldr (fun piece built => built.bind (Builder.add piece)) (some {}) with
  | some (builder : Builder) => if builder.pending.isEmpty then some builder.current else none
  | none => none

def parse (source : String) : Option Template :=
  (scan .text [] source.toList).bind build

end ShaderHandles.Template
