/-!
# Sets of characters

A set of characters is given by the ends of its ranges: the first member, the
first non-member behind it, the next member, and so on in increasing order.
-/

namespace Whitespace
namespace Text

/-- Whether a number lies in a range, if `inside` says so for the numbers before the first end. -/
def inRangesFrom (inside : Bool) (n : Nat) : List Nat -> Bool
  | [] => inside
  | first :: rest => if n < first then inside else inRangesFrom (!inside) n rest

def inRanges (ends : List Nat) (c : Char) : Bool :=
  inRangesFrom false c.toNat ends

end Text
end Whitespace
