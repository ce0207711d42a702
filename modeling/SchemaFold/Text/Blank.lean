/-! White space, and trimming it off both ends of a text. -/

namespace SchemaFold.Text

/-- White space as Unicode has it, with the four separators below the space. -/
def isBlank (c : Char) : Bool :=
  let n := c.toNat
  (0x09 ≤ n && n ≤ 0x0D) || (0x1C ≤ n && n ≤ 0x20) || n == 0x85 || n == 0xA0 || n == 0x1680 ||
    (0x2000 ≤ n && n ≤ 0x200A) || n == 0x2028 || n == 0x2029 || n == 0x202F || n == 0x205F ||
    n == 0x3000

def trimLeft (cs : List Char) : List Char :=
  cs.dropWhile isBlank

def trimRight (cs : List Char) : List Char :=
  (cs.reverse.dropWhile isBlank).reverse

def trim (s : String) : String :=
  String.ofList (trimRight (trimLeft s.toList))

/-- Holds no character but white space. -/
def allBlank (s : String) : Bool :=
  s.toList.all isBlank

end SchemaFold.Text
