/-!
Text in bytes: the eight-bit encoding form, read with every maximal ill-formed part told apart.
-/

namespace AuditTrail.Text.Utf8

/-- The character that stands for an ill-formed part. -/
def replacement : Char := Char.ofNat 0xFFFD

/-- What a leading byte announces: how many bytes follow, and the bounds of the first of them. -/
structure Lead where
  /-- The number of bytes that follow. -/
  followers : Nat
  /-- The least second byte. -/
  low : Nat
  /-- The greatest second byte. -/
  high : Nat
  /-- The payload bits of the leading byte. -/
  payload : Nat

/-- The announcement of a leading byte beyond ASCII; overlong forms, surrogates and points past
the last plane are refused by the bounds of the second byte. -/
def lead? (byte : Nat) : Option Lead :=
  if 0xC2 ≤ byte ∧ byte ≤ 0xDF then some ⟨1, 0x80, 0xBF, byte - 0xC0⟩
  else if byte = 0xE0 then some ⟨2, 0xA0, 0xBF, 0⟩
  else if byte = 0xED then some ⟨2, 0x80, 0x9F, 13⟩
  else if 0xE1 ≤ byte ∧ byte ≤ 0xEF then some ⟨2, 0x80, 0xBF, byte - 0xE0⟩
  else if byte = 0xF0 then some ⟨3, 0x90, 0xBF, 0⟩
  else if byte = 0xF4 then some ⟨3, 0x80, 0x8F, 4⟩
  else if 0xF1 ≤ byte ∧ byte ≤ 0xF3 then some ⟨3, 0x80, 0xBF, byte - 0xF0⟩
  else none

/-- Reads the bytes that follow a leading byte: the code point if they are all there, and how
many of them belong to the sequence. -/
def followers : Nat → Nat → Nat → Nat → List UInt8 → Option Nat × Nat
  | 0, _, _, payload, _ => (some payload, 0)
  | _ + 1, _, _, _, [] => (none, 0)
  | n + 1, low, high, payload, byte :: rest =>
    if low ≤ byte.toNat ∧ byte.toNat ≤ high then
      let (point, used) := followers n 0x80 0xBF (payload * 64 + (byte.toNat - 0x80)) rest
      (point, used + 1)
    else (none, 0)

/-- The characters of some bytes; nothing stands for each maximal ill-formed part. -/
def units : List UInt8 → List (Option Char)
  | [] => []
  | byte :: rest =>
    if byte < 0x80 then some (Char.ofNat byte.toNat) :: units rest
    else match lead? byte.toNat with
      | none => none :: units rest
      | some lead =>
        let (point, used) := followers lead.followers lead.low lead.high lead.payload rest
        point.map Char.ofNat :: units (rest.drop used)
termination_by bytes => bytes.length
decreasing_by
  · simp only [List.length_cons]; omega
  · simp only [List.length_cons]; omega
  · simp only [List.length_cons, List.length_drop]; omega

/-- The text of well-formed bytes. -/
def decode? (bytes : List UInt8) : Option (List Char) := (units bytes).mapM id

/-- The text of any bytes, with the replacement character for each ill-formed part. -/
def decodeReplacing (bytes : List UInt8) : List Char :=
  (units bytes).map (·.getD replacement)

/-- The bytes of one character. -/
def encodeChar (c : Char) : List UInt8 :=
  let n := c.toNat
  if n < 0x80 then [n.toUInt8]
  else if n < 0x800 then [(0xC0 + n / 64).toUInt8, (0x80 + n % 64).toUInt8]
  else if n < 0x10000 then
    [(0xE0 + n / 4096).toUInt8, (0x80 + n / 64 % 64).toUInt8, (0x80 + n % 64).toUInt8]
  else
    [(0xF0 + n / 262144).toUInt8, (0x80 + n / 4096 % 64).toUInt8, (0x80 + n / 64 % 64).toUInt8,
      (0x80 + n % 64).toUInt8]

/-- The bytes of a text. -/
def encode (text : List Char) : List UInt8 := text.flatMap encodeChar

end AuditTrail.Text.Utf8
