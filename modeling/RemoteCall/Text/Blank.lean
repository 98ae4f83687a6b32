/-!
# Blanks

`isBlank` is Unicode's white space: five controls, the space, the next-line control and the wide and narrow spaces.
`isSeparating` has the four separator controls as well. Trimming removes blanks at both ends only.
-/

namespace RemoteCall.Text

/-- Tab, line feed, vertical tab, form feed, carriage return and the space. -/
def isAsciiBlank (c : Char) : Bool := c == ' ' || (9 ≤ c.toNat && c.toNat ≤ 13)

/-- Unicode white space. -/
def isBlank (c : Char) : Bool :=
  isAsciiBlank c || c.toNat == 0x85 || c.toNat == 0xa0 || c.toNat == 0x1680 ||
    (0x2000 ≤ c.toNat && c.toNat ≤ 0x200a) || c.toNat == 0x2028 || c.toNat == 0x2029 || c.toNat == 0x202f ||
    c.toNat == 0x205f || c.toNat == 0x3000

/-- White space together with the file, group, record and unit separators. -/
def isSeparating (c : Char) : Bool := isBlank c || (0x1c ≤ c.toNat && c.toNat ≤ 0x1f)

/-- The list without the elements at its end that satisfy `p`. -/
def trimRight (p : Char → Bool) (cs : List Char) : List Char := (cs.reverse.dropWhile p).reverse

def trim (p : Char → Bool) (cs : List Char) : List Char := trimRight p (cs.dropWhile p)

end RemoteCall.Text
