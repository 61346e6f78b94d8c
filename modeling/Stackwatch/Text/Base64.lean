/-!
# Bytes in plain letters

Every three bytes are written as four letters, each of which stands for six bits. At the end, where
fewer than three bytes are left, equals signs fill up the four letters.
-/

namespace Stackwatch.Text

def base64Letters : String := "ABCDEFGHIJKLMNOPQRSTUVWXYZabcdefghijklmnopqrstuvwxyz0123456789+/"

/-- The letter for the six bits of a number that stand above a weight. -/
def base64Letter (number weight : Nat) : Char :=
  base64Letters.toList.getD (number / weight % 64) '='

/-- The bytes as letters. -/
def base64 : List UInt8 → List Char
  | first :: second :: third :: rest =>
      let number := first.toNat * Nat.pow 2 16 + second.toNat * Nat.pow 2 8 + third.toNat
      [Nat.pow 2 18, Nat.pow 2 12, Nat.pow 2 6, 1].map (base64Letter number) ++ base64 rest
  | [first, second] =>
      let number := first.toNat * Nat.pow 2 16 + second.toNat * Nat.pow 2 8
      [Nat.pow 2 18, Nat.pow 2 12, Nat.pow 2 6].map (base64Letter number) ++ ['=']
  | [first] =>
      let number := first.toNat * Nat.pow 2 16
      [Nat.pow 2 18, Nat.pow 2 12].map (base64Letter number) ++ ['=', '=']
  | [] => []

end Stackwatch.Text
