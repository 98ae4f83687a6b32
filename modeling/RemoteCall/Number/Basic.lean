import RemoteCall.Number.Text

/-!
# Numbers of either kind

A number is an integer of any size or a double. Numbers of different kinds are compared by their exact values, so an
integer that is no double equals none.
-/

namespace RemoteCall

inductive Number where
  | integer (i : Int)
  | double (x : Binary64)
deriving DecidableEq, Repr

namespace Number

def blt : Number → Number → Bool
  | integer i, integer j => i < j
  | double x, integer j => x.bltInt j
  | integer i, double y => !y.isNaN && !y.bltInt i && !y.eqInt i
  | double x, double y => x.blt y

def numEq : Number → Number → Bool
  | integer i, integer j => i == j
  | double x, integer j => x.eqInt j
  | integer i, double y => y.eqInt i
  | double x, double y => x.numEq y

def isNegative (n : Number) : Bool := n.blt (integer 0)

def isZero : Number → Bool
  | integer i => i == 0
  | double x => x.isZero

def toText : Number → String
  | integer i => toString i
  | double x => x.toText

end Number

end RemoteCall
