import AutoProxy.Text.Basic
import AutoProxy.Text.DigitTable

/-! Digits of all scripts. -/
namespace AutoProxy.Text

/-- The value of a decimal digit. -/
def digitValue? (c : Char) : Option Nat :=
  (decimalDigits.find? fun (first, last) => first ≤ c.toNat && c.toNat ≤ last).map
    fun (first, _) => (c.toNat - first) % 10

/-- Decimal digits and those that only look like one. -/
def isAnyDigit (c : Char) : Bool := (digitValue? c).isSome || holds otherDigits c.toNat

end AutoProxy.Text
