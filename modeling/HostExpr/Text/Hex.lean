/-!
# Hexadecimal digits

* `Hex.value?`: the value of a digit, of either case;
* `Hex.digit`: the digit of a value, in lower case.
-/

namespace HostExpr.Hex

/-- The value of a hexadecimal digit of either case. -/
def value? (c : Char) : Option Nat :=
  if '0' ≤ c ∧ c ≤ '9' then some (c.toNat - '0'.toNat)
  else if 'a' ≤ c ∧ c ≤ 'f' then some (c.toNat - 'a'.toNat + 10)
  else if 'A' ≤ c ∧ c ≤ 'F' then some (c.toNat - 'A'.toNat + 10)
  else none

/-- The hexadecimal digit of a number below 16, in lower case. -/
def digit (n : Nat) : Char :=
  (n % 16).digitChar

end HostExpr.Hex
