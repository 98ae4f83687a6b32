/-!
# Code points in texts

A text is made of code points, and each of them is a character or half of a surrogate pair. In a `String` a half is
written with two characters, the last one of all and one for the half; the last one itself is written twice.
-/

namespace RemoteCall.Text

def isHighSurrogate (n : Nat) : Bool := 0xd800 ≤ n && n ≤ 0xdbff

def isLowSurrogate (n : Nat) : Bool := 0xdc00 ≤ n && n ≤ 0xdfff

def isSurrogate (n : Nat) : Bool := isHighSurrogate n || isLowSurrogate n

def mark : Char := Char.ofNat 0x10ffff

/-- How a code point is written. The characters that stand for the halves begin where the halves end. -/
def pointChars (n : Nat) : List Char :=
  if isSurrogate n then [mark, Char.ofNat (n + 0x800)]
  else if Char.ofNat n = mark then [mark, mark]
  else [Char.ofNat n]

/-- The code points that are written. -/
def pointsOf : List Char → List Nat
  | [] => []
  | [c] => [c.toNat]
  | c :: d :: rest =>
    if c ≠ mark then c.toNat :: pointsOf (d :: rest)
    else (if d = mark then mark.toNat else d.toNat - 0x800) :: pointsOf rest

def ofPoints (points : List Nat) : String := String.ofList (points.flatMap pointChars)

def points (s : String) : List Nat := pointsOf s.toList

def hasSurrogate (s : String) : Bool := (points s).any isSurrogate

/-! ## Characters -/

def ofChars (cs : List Char) : String := ofPoints (cs.map Char.toNat)

/-- The characters of a text, with another one in the place of a half. -/
def chars (s : String) : List Char :=
  (points s).map fun n => if isSurrogate n then '\ufffd' else Char.ofNat n

end RemoteCall.Text
