import GilStreaming.Lib.GoStrconv
import GilStreaming.Lib.GoText
import GilStreaming.Lib.Sha256

/-!
# GilStreaming.Lib.QtText

What a Qt program does with the text of a number, and with bytes as text.

`QString::toInt` is zero where the text is not a decimal number of 32 bits, and so is
`toUInt`. Blanks around it do not count. `QByteArray::fromHex` skips what is no hexadecimal
digit, and takes the digits two by two from the end.
-/

namespace GilStreaming

/-- `INT_MAX` and `INT_MIN`. -/
def maxInt32 : Int := 2147483647

def minInt32 : Int := -2147483648

namespace QString

/-- `s.toInt()`. -/
def toInt (s : String) : Int :=
  let (negative, digits) := splitSign (trimSpace s.toList)
  if digits.isEmpty || !digits.all Char.isDigit then 0
  else
    let n : Int := decimalValue 0 digits
    let value := if negative then -n else n
    if value < minInt32 ∨ maxInt32 < value then 0 else value

example : (toInt " 7 ", toInt "-12", toInt "7.1", toInt "2147483648") = (7, -12, 0, 0) := by
  decide

/-- `s.toUInt()`. -/
def toUInt (s : String) : Nat :=
  let (negative, digits) := splitSign (trimSpace s.toList)
  if negative || digits.isEmpty || !digits.all Char.isDigit then 0
  else
    let n := decimalValue 0 digits
    if n < 2 ^ 32 then n else 0

/-- `s.toUtf8()`. -/
def toUtf8 (s : String) : List UInt8 := s.toUTF8.data.toList

end QString

/-- A `uint` as an `int`. -/
def uintToInt (n : Nat) : Int := if n ≤ 2147483647 then n else n - 4294967296

/-! ### Bytes -/

abbrev QByteArray := List UInt8

namespace QByteArray

/-- `toHex`, which writes what `hex.EncodeToString` does. -/
def toHex (bytes : QByteArray) : String := hexEncode bytes

/-- The value of a hexadecimal digit. -/
def hexValue (c : Char) : Option Nat :=
  if '0' ≤ c ∧ c ≤ '9' then some (c.toNat - '0'.toNat)
  else if 'a' ≤ c ∧ c ≤ 'f' then some (c.toNat - 'a'.toNat + 10)
  else if 'A' ≤ c ∧ c ≤ 'F' then some (c.toNat - 'A'.toNat + 10)
  else none

/-- The bytes of the digits, the last byte first, from the last digit on. -/
def bytesOfDigits : List Nat → List UInt8
  | [] => []
  | [low] => [UInt8.ofNat low]
  | low :: high :: rest => UInt8.ofNat (16 * high + low) :: bytesOfDigits rest

/-- `fromHex(hexEncoded.toUtf8())`. -/
def fromHex (hexEncoded : String) : QByteArray :=
  (bytesOfDigits (hexEncoded.toList.filterMap hexValue).reverse).reverse

theorem hexValue_hexDigit : ∀ n < 16, hexValue (hexDigit n) = some n := by decide

theorem bytesOfDigits_flatMap (bytes : List UInt8) :
    bytesOfDigits (bytes.flatMap fun b => [b.toNat % 16, b.toNat / 16]) = bytes := by
  induction bytes with
  | nil => rfl
  | cons b bytes ih =>
      rw [List.flatMap_cons, List.cons_append, List.cons_append, List.nil_append, bytesOfDigits,
        ih, Nat.div_add_mod, UInt8.ofNat_toNat]

@[simp] theorem fromHex_toHex (bytes : QByteArray) : fromHex (toHex bytes) = bytes := by
  have hdigits : (toHex bytes).toList.filterMap hexValue =
      bytes.flatMap fun b => [b.toNat / 16, b.toNat % 16] := by
    rw [toHex, hexEncode, String.toList_ofList, List.filterMap_flatMap]
    refine List.flatMap_congr fun b _ => ?_
    have hhigh := hexValue_hexDigit (b.toNat / 16) (by have := b.toNat_lt; omega)
    have hlow := hexValue_hexDigit (b.toNat % 16) (Nat.mod_lt _ (by decide))
    simp [hhigh, hlow]
  rw [fromHex, hdigits, List.reverse_flatMap]
  exact (congrArg List.reverse (bytesOfDigits_flatMap bytes.reverse)).trans
    (List.reverse_reverse bytes)

example : (fromHex "0aF", fromHex "7f-01", fromHex "xyz") = ([0, 175], [127, 1], []) := by
  decide

end QByteArray

end GilStreaming
