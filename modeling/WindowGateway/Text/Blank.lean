/-! White space: the code points with Unicode's `White_Space` property, and text without the white
space at its ends. -/

namespace WindowGateway.Text

/-- Whether a character has the `White_Space` property. -/
def isBlank (c : Char) : Bool :=
  let n := c.toNat
  (9 ≤ n && n ≤ 13) || n == 0x20 || n == 0x85 || n == 0xA0 || n == 0x1680 ||
    (0x2000 ≤ n && n ≤ 0x200A) || n == 0x2028 || n == 0x2029 || n == 0x202F || n == 0x205F ||
    n == 0x3000

/-- The characters without the blanks at both ends. -/
def stripped (cs : List Char) : List Char :=
  ((cs.dropWhile isBlank).reverse.dropWhile isBlank).reverse

def trim (s : String) : String := String.ofList (stripped s.toList)

/-- Whether the text is empty or holds blanks only. -/
def allBlank (s : String) : Bool := s.toList.all isBlank

end WindowGateway.Text
