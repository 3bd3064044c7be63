/-!
# White space

The characters with the `White_Space` property, and stripping them from the ends of a text. The
format characters U+200B and U+FEFF do not belong to them.
-/

namespace PortalConfig

/-- Whether a character has the `White_Space` property. -/
def isBlank (c : Char) : Bool :=
  let n := c.toNat
  (9 ≤ n && n ≤ 13) || n == 0x20 || n == 0x85 || n == 0xA0 || n == 0x1680 ||
    (0x2000 ≤ n && n ≤ 0x200A) || n == 0x2028 || n == 0x2029 || n == 0x202F || n == 0x205F ||
    n == 0x3000

namespace Text

/-- Leaves out leading white space. -/
def trimStart (text : List Char) : List Char := text.dropWhile isBlank

/-- Leaves out trailing white space. -/
def trimEnd (text : List Char) : List Char := (trimStart text.reverse).reverse

/-- Leaves out white space at both ends. -/
def trim (text : List Char) : List Char := trimEnd (trimStart text)

/-- Whether a text has nothing but white space in it. -/
def isBlank (text : List Char) : Bool := text.all PortalConfig.isBlank

end Text

end PortalConfig
