/-!
# UTF-8

Octets are read as UTF-8 strictly: shortest forms only and no surrogates. A fault covers the octets of the broken
character that were in order so far, at least one.
-/

namespace RemoteCall.Text

inductive Utf8Problem where
  | badStart
  | badContinuation
  | truncated
deriving DecidableEq, Repr

/-- What is wrong, with the octet it starts at, its position, and how many octets it covers. -/
structure Utf8Error where
  problem : Utf8Problem
  octet : UInt8
  position : Nat
  count : Nat
deriving DecidableEq, Repr

def Utf8Problem.text : Utf8Problem → String
  | .badStart => "invalid start byte"
  | .badContinuation => "invalid continuation byte"
  | .truncated => "unexpected end of data"

namespace Utf8Error

def hexOctet (b : UInt8) : String :=
  let ds := Nat.toDigits 16 b.toNat
  "0x" ++ String.ofList (List.replicate (2 - ds.length) '0' ++ ds)

def message (e : Utf8Error) : String :=
  let what :=
    if e.count = 1 then s!"byte {hexOctet e.octet} in position {e.position}"
    else s!"bytes in position {e.position}-{e.position + e.count - 1}"
  s!"'utf-8' codec can't decode {what}: {e.problem.text}"

end Utf8Error

/-- The number of octets that follow a first octet, and the bounds of the second one. -/
def utf8Start? (b : Nat) : Option (Nat × Nat × Nat) :=
  if b < 0xc2 then none
  else if b < 0xe0 then some (1, 0x80, 0xbf)
  else if b = 0xe0 then some (2, 0xa0, 0xbf)
  else if b = 0xed then some (2, 0x80, 0x9f)
  else if b < 0xf0 then some (2, 0x80, 0xbf)
  else if b = 0xf0 then some (3, 0x90, 0xbf)
  else if b < 0xf4 then some (3, 0x80, 0xbf)
  else if b = 0xf4 then some (3, 0x80, 0x8f)
  else none

/-- How many of the next octets continue a character, up to `wanted`; the first one has bounds of its own. -/
def continuing : (wanted lo hi : Nat) → List UInt8 → Nat
  | 0, _, _, _ => 0
  | wanted + 1, lo, hi, b :: rest =>
    if lo ≤ b.toNat ∧ b.toNat ≤ hi then continuing wanted 0x80 0xbf rest + 1 else 0
  | _ + 1, _, _, [] => 0

/-- The characters that the octets from a position on stand for. -/
def decodeUtf8From (position : Nat) (octets : List UInt8) : Except Utf8Error (List Char) :=
  match octets with
  | [] => .ok []
  | b :: rest =>
    if b.toNat < 0x80 then do
      return Char.ofNat b.toNat :: (← decodeUtf8From (position + 1) rest)
    else
      match utf8Start? b.toNat with
      | none => .error ⟨.badStart, b, position, 1⟩
      | some (wanted, lo, hi) =>
        let found := continuing wanted lo hi rest
        if found < wanted then
          let problem := if found = rest.length then .truncated else .badContinuation
          .error ⟨problem, b, position, found + 1⟩
        else do
          let first := b.toNat % Nat.pow 2 (6 - wanted)
          let code := (rest.take wanted).foldl (fun n c => n * 64 + c.toNat % 64) first
          return Char.ofNat code :: (← decodeUtf8From (position + wanted + 1) (rest.drop wanted))
termination_by octets.length
decreasing_by
  · exact Nat.lt_succ_self _
  · rw [List.length_drop]
    exact Nat.lt_succ_of_le (Nat.sub_le _ _)

def decodeUtf8 (octets : List UInt8) : Except Utf8Error (List Char) := decodeUtf8From 0 octets

/-- The text with every kind of line end written as a line feed. -/
def unifyLines : List Char → List Char
  | '\r' :: '\n' :: rest => '\n' :: unifyLines rest
  | '\r' :: rest => '\n' :: unifyLines rest
  | c :: rest => c :: unifyLines rest
  | [] => []

/-- The characters of a text file. -/
def decodeFile (octets : List UInt8) : Except Utf8Error (List Char) := unifyLines <$> decodeUtf8 octets

end RemoteCall.Text
