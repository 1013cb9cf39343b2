/-!
# Blanks

The characters that only separate words: the space, tabs, the characters that end a line or a page,
and the wide and narrow spaces of typesetting.

* `isBlank`: membership.
* `trim`: a text without the blanks at its ends.
-/

namespace ShaderHandles.Text

def isBlank (c : Char) : Bool :=
  let n := c.toNat
  (0x9 ≤ n && n ≤ 0xd) || n == 0x20 || n == 0x85 || n == 0xa0 || n == 0x1680 ||
    (0x2000 ≤ n && n ≤ 0x200a) || n == 0x2028 || n == 0x2029 || n == 0x202f || n == 0x205f ||
    n == 0x3000

def trim (text : List Char) : List Char :=
  ((text.dropWhile isBlank).reverse.dropWhile isBlank).reverse

end ShaderHandles.Text
