/-!
# Blank characters

The characters of Unicode that count as blank, and trimming. Blank are the white space
characters of the standard together with the four separators U+001C to U+001F; the
zero-width space U+200B is not blank.
-/
namespace OpGraph.Text

/-- Blank characters outside ASCII. -/
def isWideBlank (c : Char) : Bool :=
  let n := c.toNat
  n == 0x85 || n == 0xa0 || n == 0x1680 || (0x2000 ≤ n && n ≤ 0x200a) ||
    n == 0x2028 || n == 0x2029 || n == 0x202f || n == 0x205f || n == 0x3000

def isBlank (c : Char) : Bool :=
  let n := c.toNat
  (9 ≤ n && n ≤ 13) || (0x1c ≤ n && n ≤ 0x20) || isWideBlank c

def trimStart (cs : List Char) : List Char :=
  cs.dropWhile isBlank

def trimEnd (cs : List Char) : List Char :=
  (trimStart cs.reverse).reverse

def trim (cs : List Char) : List Char :=
  trimEnd (trimStart cs)

/-- Removes the blank characters at both ends. -/
def strip (text : String) : String :=
  String.ofList (trim text.toList)

end OpGraph.Text
