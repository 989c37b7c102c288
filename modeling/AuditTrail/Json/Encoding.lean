import AuditTrail.Json.Reader
/-!
JSON in bytes. The encoding form is told by a byte order mark or by where the zero bytes among the
first four stand.
-/

namespace AuditTrail.Json

open Text

/-- The encoding forms of JSON text. -/
inductive Form where
  | utf8
  | utf16 (bigEndian : Bool)
  | utf32 (bigEndian : Bool)
deriving DecidableEq, Repr

/-- The encoding form of some bytes, and how many of them are a byte order mark. -/
def formOf (data : List UInt8) : Form × Nat :=
  match data with
  | 0 :: 0 :: 0xFE :: 0xFF :: _ => (.utf32 true, 4)
  | 0xFF :: 0xFE :: 0 :: 0 :: _ => (.utf32 false, 4)
  | 0xFE :: 0xFF :: _ => (.utf16 true, 2)
  | 0xFF :: 0xFE :: _ => (.utf16 false, 2)
  | 0xEF :: 0xBB :: 0xBF :: _ => (.utf8, 3)
  | a :: b :: c :: d :: _ =>
    if a = 0 then (if b = 0 then .utf32 true else .utf16 true, 0)
    else if b = 0 then (if c = 0 ∧ d = 0 then .utf32 false else .utf16 false, 0)
    else (.utf8, 0)
  | [a, b] =>
    if a = 0 then (.utf16 true, 0) else if b = 0 then (.utf16 false, 0) else (.utf8, 0)
  | _ => (.utf8, 0)

/-- The units of two bytes; nothing for an odd number of bytes. -/
def units16? (bigEndian : Bool) : List UInt8 → Option (List Nat)
  | [] => some []
  | [_] => none
  | a :: b :: rest => do
    let units ← units16? bigEndian rest
    pure ((if bigEndian then a.toNat * 256 + b.toNat else b.toNat * 256 + a.toNat) :: units)

/-- The text of units of two bytes; a lone surrogate reads as the replacement character. -/
def fromUnits16 : List Nat → List Char
  | [] => []
  | [n] => [unitChar n]
  | high :: low :: rest =>
    if isHighSurrogate high && isLowSurrogate low then
      Char.ofNat (0x10000 + (high - 0xD800) * 0x400 + (low - 0xDC00)) :: fromUnits16 rest
    else unitChar high :: fromUnits16 (low :: rest)

/-- The text of units of four bytes. -/
def decode32? (bigEndian : Bool) : List UInt8 → Option (List Char)
  | [] => some []
  | a :: b :: c :: d :: rest =>
    let n := if bigEndian then ((a.toNat * 256 + b.toNat) * 256 + c.toNat) * 256 + d.toNat
      else ((d.toNat * 256 + c.toNat) * 256 + b.toNat) * 256 + a.toNat
    if n < 0x110000 then (decode32? bigEndian rest).map (unitChar n :: ·) else none
  | _ => none

/-- The bytes of the eight-bit form with each encoded surrogate as a replacement character. -/
def replaceSurrogates : List UInt8 → List UInt8
  | 0xED :: b :: c :: rest =>
    if 0xA0 ≤ b ∧ b ≤ 0xBF ∧ 0x80 ≤ c ∧ c ≤ 0xBF then
      0xEF :: 0xBF :: 0xBD :: replaceSurrogates rest
    else 0xED :: replaceSurrogates (b :: c :: rest)
  | a :: rest => a :: replaceSurrogates rest
  | [] => []

/-- The text of some bytes in an encoding form. -/
def decode? (form : Form) (data : List UInt8) : Option (List Char) :=
  match form with
  | .utf8 => Utf8.decode? (replaceSurrogates data)
  | .utf16 bigEndian => (units16? bigEndian data).map fromUnits16
  | .utf32 bigEndian => decode32? bigEndian data

/-- The value that some bytes write, where lists and maps may be nested as deeply as there is room
for. -/
def readBytes (room : Nat) (data : List UInt8) : Except Trouble Value :=
  let (form, mark) := formOf data
  match decode? form (data.drop mark) with
  | some text => read room text
  | none => .error .malformed

end AuditTrail.Json
