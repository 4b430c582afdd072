/-!
# Blank characters

White space as the Unicode standard lists it, and the trimming of texts.

- `isBlank` decides white space.
- `trim` removes the white space around a text.
-/

namespace Messaging.Text

/-- Whether a character is white space. -/
def isBlank (c : Char) : Bool :=
  let n := c.toNat
  (0x9 ≤ n && n ≤ 0xD) || n == 0x20 || n == 0x85 || n == 0xA0 || n == 0x1680
    || (0x2000 ≤ n && n ≤ 0x200A) || n == 0x2028 || n == 0x2029 || n == 0x202F || n == 0x205F
    || n == 0x3000

/-- The characters from the first that is not blank to the last that is not blank. -/
def trimChars (cs : List Char) : List Char :=
  ((cs.dropWhile isBlank).reverse.dropWhile isBlank).reverse

/-- A text without the white space around it. -/
def trim (text : String) : String := String.ofList (trimChars text.toList)

/-- Whether a text holds nothing but white space. -/
def isAllBlank (text : String) : Bool := text.toList.all isBlank

end Messaging.Text
