/-!
# Blank Characters

The characters with the Unicode property White_Space, and the trimming of text by them. Zero-width
characters such as U+200B and U+FEFF are not blank.
-/

namespace Questline.Text

/-- The 25 code points of White_Space: tab to carriage return, the space, the next-line and no-break
characters, and the space separators up to U+3000. -/
def isBlank (c : Char) : Bool :=
  let n := c.toNat
  (0x09 ≤ n && n ≤ 0x0D) || n == 0x20 || n == 0x85 || n == 0xA0 || n == 0x1680 ||
    (0x2000 ≤ n && n ≤ 0x200A) || n == 0x2028 || n == 0x2029 || n == 0x202F || n == 0x205F ||
    n == 0x3000

def trimStart (cs : List Char) : List Char := cs.dropWhile isBlank

def trimEnd (cs : List Char) : List Char := (cs.reverse.dropWhile isBlank).reverse

def trim (cs : List Char) : List Char := trimEnd (trimStart cs)

end Questline.Text
