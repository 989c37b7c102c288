import AuditTrail.Text.Quoted
import AuditTrail.Text.Utf8
/-!
Percent encoding, as resource locators and forms use it.
-/

namespace AuditTrail.Text.Percent

/-- The value of a hexadecimal digit. -/
def hexValue? (byte : UInt8) : Option Nat :=
  let n := byte.toNat
  if 0x30 ≤ n ∧ n ≤ 0x39 then some (n - 0x30)
  else if 0x41 ≤ n ∧ n ≤ 0x46 then some (n - 0x41 + 10)
  else if 0x61 ≤ n ∧ n ≤ 0x66 then some (n - 0x61 + 10)
  else none

/-- Replaces each percent sign with two hexadecimal digits by the byte they write; any other
percent sign stays. -/
def decodeBytes : List UInt8 → List UInt8
  | 0x25 :: high :: low :: rest =>
    match hexValue? high, hexValue? low with
    | some h, some l => (h * 16 + l).toUInt8 :: decodeBytes rest
    | _, _ => 0x25 :: decodeBytes (high :: low :: rest)
  | byte :: rest => byte :: decodeBytes rest
  | [] => []

/-- The text that a percent-encoded text writes. -/
def decode (text : List Char) : List Char :=
  Utf8.decodeReplacing (decodeBytes (Utf8.encode text))

/-- The text that a form field writes: a plus sign is a space. -/
def decodeField (text : List Char) : List Char :=
  decode (text.map fun c => if c == '+' then ' ' else c)

/-- Bytes that a form field writes as themselves. -/
def isUnreserved (byte : UInt8) : Bool :=
  let n := byte.toNat
  (0x30 ≤ n && n ≤ 0x39) || (0x41 ≤ n && n ≤ 0x5A) || (0x61 ≤ n && n ≤ 0x7A) ||
    n == 0x5F || n == 0x2E || n == 0x2D || n == 0x7E

/-- A byte by a percent sign and two hexadecimal digits. -/
def escapedByte (byte : UInt8) : List Char :=
  '%' :: (hexDigits 2 byte.toNat).map Char.toUpper

/-- One byte of a form field. -/
def encodeByte (byte : UInt8) : List Char :=
  if isUnreserved byte then [Char.ofNat byte.toNat]
  else if byte == 0x20 then ['+']
  else escapedByte byte

/-- A text as a form field: a space is a plus sign, and every byte that is not unreserved is
written by two hexadecimal digits. -/
def encodeField (text : List Char) : List Char := (Utf8.encode text).flatMap encodeByte

/-- One byte of a text that holds some reserved characters as themselves. -/
def encodeByteWith (marks : List Char) (byte : UInt8) : List Char :=
  let c := Char.ofNat byte.toNat
  if isUnreserved byte || marks.contains c then [c] else escapedByte byte

/-- The reserved characters that a path holds as themselves. -/
def pathMarks : List Char := "!$&'()*+,/:;=@".toList

/-- A text as the path of a resource locator. -/
def encodePath (text : List Char) : List Char :=
  (Utf8.encode text).flatMap (encodeByteWith pathMarks)

/-- The characters that a query holds as themselves: the percent sign, as a query has its escapes
already, and reserved ones. -/
def queryMarks : List Char := "%!$&'()*+,/:;=?@".toList

/-- A query as part of a resource locator. -/
def encodeQuery (text : List Char) : List Char :=
  (Utf8.encode text).flatMap (encodeByteWith queryMarks)

end AuditTrail.Text.Percent
