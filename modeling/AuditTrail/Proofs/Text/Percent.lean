import AuditTrail.Proofs.Text.Utf8
import AuditTrail.Text.Percent

/-!
# Percent encoding and back

A form field is decoded as the text that it writes, but for its spaces: these are written as plus
signs, and a plus sign is decoded as itself.
-/

namespace AuditTrail.Text

namespace Utf8

/-- A character outside ASCII has no byte of ASCII. -/
theorem mem_encodeChar {c : Char} {byte : UInt8} (member : byte ∈ encodeChar c) :
    byte.toNat = c.toNat ∨ 0x80 ≤ byte.toNat := by
  have bounds := toNat_bounds c
  rw [encodeChar] at member
  split at member
  · rw [List.mem_singleton.mp member, toNat_toUInt8 (by omega)]
    exact .inl rfl
  right
  split at member
  · simp only [List.mem_cons, List.not_mem_nil, or_false] at member
    rcases member with rfl | rfl <;> rw [toNat_toUInt8 (by omega)] <;> omega
  split at member
  · simp only [List.mem_cons, List.not_mem_nil, or_false] at member
    rcases member with rfl | rfl | rfl <;> rw [toNat_toUInt8 (by omega)] <;> omega
  · simp only [List.mem_cons, List.not_mem_nil, or_false] at member
    rcases member with rfl | rfl | rfl | rfl <;> rw [toNat_toUInt8 (by omega)] <;> omega

/-- The byte of an ASCII character stands for that character alone. -/
theorem eq_of_mem_encodeChar {c mark : Char} (ascii : mark.toNat < 0x80)
    (member : mark.toNat.toUInt8 ∈ encodeChar c) : c = mark := by
  have byte : mark.toNat.toUInt8.toNat = mark.toNat := toNat_toUInt8 (by omega)
  rcases mem_encodeChar member with same | beyond
  · exact Char.toNat_inj.mp (same.symm.trans byte)
  · omega

theorem not_mem_encode {text : List Char} {mark : Char} (ascii : mark.toNat < 0x80)
    (absent : mark ∉ text) : mark.toNat.toUInt8 ∉ encode text := by
  intro member
  obtain ⟨c, inside, byte⟩ := List.mem_flatMap.mp member
  exact absent (eq_of_mem_encodeChar ascii byte ▸ inside)

end Utf8

namespace Percent

theorem decodeBytes_of_ne {byte : UInt8} (plain : byte ≠ 0x25) (rest : List UInt8) :
    decodeBytes (byte :: rest) = byte :: decodeBytes rest := by
  rw [decodeBytes.eq_def]
  split
  · next same => exact absurd (List.cons.inj same).1 plain
  · next same =>
      obtain ⟨rfl, rfl⟩ := List.cons.inj same
      rfl
  · next same => cases same

theorem decodeBytes_of_not_mem {bytes : List UInt8} (plain : 0x25 ∉ bytes) :
    decodeBytes bytes = bytes := by
  induction bytes with
  | nil => rw [decodeBytes]
  | cons byte rest ih =>
      rw [List.mem_cons, not_or] at plain
      rw [decodeBytes_of_ne (Ne.symm plain.1), ih plain.2]

/-- The byte of a hexadecimal digit. -/
def digitByte (digit : Nat) : UInt8 :=
  (if digit < 10 then 0x30 + digit else 0x41 + (digit - 10)).toUInt8

theorem hexValue?_digitByte : ∀ digit < 16, hexValue? (digitByte digit) = some digit := by decide

/-- What holds of the first 256 numbers holds of every byte. -/
theorem forall_byte {p : UInt8 → Prop} (table : ∀ n < 256, p n.toUInt8) (byte : UInt8) :
    p byte := by
  have entry := table byte.toNat byte.toNat_lt
  rwa [Nat.toUInt8, UInt8.ofNat_toNat] at entry

theorem encode_escapedByte (byte : UInt8) : Utf8.encode (escapedByte byte) =
    [0x25, digitByte (byte.toNat / 16), digitByte (byte.toNat % 16)] :=
  forall_byte (p := fun byte => Utf8.encode (escapedByte byte) =
    [0x25, digitByte (byte.toNat / 16), digitByte (byte.toNat % 16)]) (by decide +kernel) byte

/-- A byte that is written by two digits is read back. -/
theorem decodeBytes_escapedByte (byte : UInt8) (rest : List UInt8) :
    decodeBytes (Utf8.encode (escapedByte byte) ++ rest) = byte :: decodeBytes rest := by
  have small := byte.toNat_lt
  rw [encode_escapedByte, List.cons_append, List.cons_append, List.singleton_append, decodeBytes,
    hexValue?_digitByte _ (by omega), hexValue?_digitByte _ (by omega)]
  have whole : (byte.toNat / 16 * 16 + byte.toNat % 16).toUInt8 = byte := by
    rw [Nat.div_add_mod', Nat.toUInt8, UInt8.ofNat_toNat]
  simp only [whole]

/-- A plus sign in place of a space. -/
def plusByte (byte : UInt8) : UInt8 := if byte = 0x20 then 0x2B else byte

theorem encode_unreserved {byte : UInt8} (free : isUnreserved byte = true) :
    Utf8.encode (encodeByte byte) = [byte] ∧ byte ≠ 0x25 ∧ byte ≠ 0x20 := by
  refine forall_byte (p := fun byte => isUnreserved byte = true →
    Utf8.encode (encodeByte byte) = [byte] ∧ byte ≠ 0x25 ∧ byte ≠ 0x20) ?_ byte free
  decide +kernel

theorem decodeBytes_encodeByte (byte : UInt8) (rest : List UInt8) :
    decodeBytes (Utf8.encode (encodeByte byte) ++ rest) = plusByte byte :: decodeBytes rest := by
  cases free : isUnreserved byte with
  | true =>
      obtain ⟨single, plain, filled⟩ := encode_unreserved free
      rw [single, List.singleton_append, decodeBytes_of_ne plain, plusByte, if_neg filled]
  | false =>
      by_cases space : byte = 0x20
      · subst space
        exact decodeBytes_of_ne (by decide) rest
      · have written : encodeByte byte = escapedByte byte := by simp [encodeByte, free, space]
        rw [written, decodeBytes_escapedByte, plusByte, if_neg space]

theorem decodeBytes_flatMap (bytes : List UInt8) :
    decodeBytes (bytes.flatMap fun byte => Utf8.encode (encodeByte byte)) =
      bytes.map plusByte := by
  induction bytes with
  | nil => rw [List.flatMap_nil, List.map_nil, decodeBytes]
  | cons byte rest ih => rw [List.flatMap_cons, decodeBytes_encodeByte, ih, List.map_cons]

/-- A text with a plus sign in place of every space. -/
def plused (text : List Char) : List Char := text.map fun c => if c = ' ' then '+' else c

theorem plused_eq_self_iff {text : List Char} : plused text = text ↔ ' ' ∉ text := by
  induction text with
  | nil => simp [plused]
  | cons c rest ih =>
      rw [plused] at ih ⊢
      rw [List.map_cons, List.cons.injEq, ih, List.mem_cons, not_or]
      by_cases space : c = ' '
      · simp [space]
      · simp [space, Ne.symm space]

theorem map_plusByte_encodeChar (c : Char) :
    (Utf8.encodeChar c).map plusByte = Utf8.encodeChar (if c = ' ' then '+' else c) := by
  by_cases space : c = ' '
  · subst space
    decide
  · have filled : ∀ byte ∈ Utf8.encodeChar c, plusByte byte = byte := by
      intro byte member
      refine if_neg fun blank => space (Utf8.eq_of_mem_encodeChar (by decide) ?_)
      rw [blank] at member
      exact member
    rw [if_neg space, List.map_congr_left filled, List.map_id']

theorem map_plusByte_encode (text : List Char) :
    (Utf8.encode text).map plusByte = Utf8.encode (plused text) := by
  rw [Utf8.encode, Utf8.encode, plused, List.map_flatMap, List.flatMap_map]
  exact congrArg text.flatMap (funext map_plusByte_encodeChar)

/-- A form field is decoded as its text, with plus signs for spaces. -/
theorem decode_encodeField (text : List Char) : decode (encodeField text) = plused text := by
  have bytes : Utf8.encode (encodeField text) =
      (Utf8.encode text).flatMap fun byte => Utf8.encode (encodeByte byte) :=
    List.flatMap_assoc
  rw [decode, bytes, decodeBytes_flatMap, map_plusByte_encode, Utf8.decodeReplacing_encode]

/-- Without percent signs there is nothing to decode. -/
theorem decode_of_not_mem {text : List Char} (plain : '%' ∉ text) : decode text = text := by
  have bytes : (0x25 : UInt8) ∉ Utf8.encode text := Utf8.not_mem_encode (by decide) plain
  rw [decode, decodeBytes_of_not_mem bytes, Utf8.decodeReplacing_encode]

/-- The characters that part a resource locator. -/
def delimiters : List Char := ":/@?#[]".toList

theorem not_mem_encodeByte (byte : UInt8) : ∀ c ∈ encodeByte byte, c ∉ delimiters := by
  have table : ∀ n < 256, (encodeByte n.toUInt8).all (fun c => !delimiters.contains c) = true := by
    decide +kernel
  intro c member
  have free := List.all_eq_true.mp (forall_byte (p := fun byte =>
    (encodeByte byte).all (fun c => !delimiters.contains c) = true) table byte) c member
  simpa using free

/-- A form field parts no resource locator. -/
theorem not_mem_encodeField {text : List Char} {mark : Char} (parts : mark ∈ delimiters) :
    mark ∉ encodeField text := by
  intro member
  obtain ⟨byte, _, written⟩ := List.mem_flatMap.mp member
  exact not_mem_encodeByte byte mark written parts

end Percent

end AuditTrail.Text
