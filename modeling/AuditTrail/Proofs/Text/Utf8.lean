import AuditTrail.Text.Utf8

/-!
# Text in bytes and back

The bytes of a text are read as that text again, whatever follows them.
-/

namespace AuditTrail.Text.Utf8

theorem toNat_toUInt8 {n : Nat} (small : n < 256) : n.toUInt8.toNat = n :=
  UInt8.toNat_ofNat_of_lt' small

/-- The code points of characters leave out the surrogates. -/
theorem toNat_bounds (c : Char) :
    c.toNat < 0xD800 ∨ (0xDFFF < c.toNat ∧ c.toNat < 0x110000) := c.valid

/-- A continuation byte within bounds is used up, with its six bits. -/
theorem followers_succ {low high bits : Nat} (n payload : Nat) (rest : List UInt8)
    (few : bits < 64) (above : low ≤ 0x80 + bits) (below : 0x80 + bits ≤ high) :
    followers (n + 1) low high payload ((0x80 + bits).toUInt8 :: rest) =
      ((followers n 0x80 0xBF (payload * 64 + bits) rest).1,
        (followers n 0x80 0xBF (payload * 64 + bits) rest).2 + 1) := by
  rw [followers, toNat_toUInt8 (by omega), if_pos ⟨above, below⟩, Nat.add_sub_cancel_left]

/-- A leading byte with the continuation bytes that it announces is one character. -/
theorem units_of_lead {first : Nat} {lead : Lead} {rest : List UInt8} {c : Char}
    (bytes : List UInt8) (beyond : 0x80 ≤ first) (small : first < 256)
    (leads : lead? first = some lead)
    (follow : followers lead.followers lead.low lead.high lead.payload (bytes ++ rest) =
      (some c.toNat, bytes.length)) :
    units (first.toUInt8 :: (bytes ++ rest)) = some c :: units rest := by
  have large : ¬ first.toUInt8 < 0x80 := by
    rw [UInt8.lt_iff_toNat_lt, toNat_toUInt8 small]
    exact Nat.not_lt.mpr beyond
  rw [units, if_neg large, toNat_toUInt8 small, leads]
  simp only [follow, List.drop_left, Option.map_some, Char.ofNat_toNat]

theorem lead?_two {bits : Nat} (least : 2 ≤ bits) (most : bits < 32) :
    lead? (0xC0 + bits) = some ⟨1, 0x80, 0xBF, bits⟩ := by
  rw [lead?, if_pos (by omega), Nat.add_sub_cancel_left]

/-- The second byte of three is bounded so that the code point takes three bytes and is no
surrogate. -/
theorem lead?_three {bits second : Nat} (most : bits < 16) (filled : bits = 0 → 32 ≤ second)
    (whole : bits = 13 → second < 32) (few : second < 64) :
    ∃ low high, lead? (0xE0 + bits) = some ⟨2, low, high, bits⟩ ∧
      low ≤ 0x80 + second ∧ 0x80 + second ≤ high := by
  rw [lead?, if_neg (by omega)]
  by_cases first : bits = 0
  · subst first
    exact ⟨0xA0, 0xBF, rfl, by have := filled rfl; omega, by omega⟩
  by_cases surrogate : bits = 13
  · subst surrogate
    exact ⟨0x80, 0x9F, rfl, by omega, by have := whole rfl; omega⟩
  · rw [if_neg (by omega), if_neg (by omega), if_pos (by omega), Nat.add_sub_cancel_left]
    exact ⟨0x80, 0xBF, rfl, by omega, by omega⟩

/-- The second byte of four is bounded so that the code point takes four bytes and is on one of
the planes. -/
theorem lead?_four {bits second : Nat} (most : bits ≤ 4) (filled : bits = 0 → 16 ≤ second)
    (planar : bits = 4 → second < 16) (few : second < 64) :
    ∃ low high, lead? (0xF0 + bits) = some ⟨3, low, high, bits⟩ ∧
      low ≤ 0x80 + second ∧ 0x80 + second ≤ high := by
  rw [lead?, if_neg (by omega), if_neg (by omega), if_neg (by omega), if_neg (by omega)]
  by_cases first : bits = 0
  · subst first
    exact ⟨0x90, 0xBF, rfl, by have := filled rfl; omega, by omega⟩
  by_cases last : bits = 4
  · subst last
    exact ⟨0x80, 0x8F, rfl, by omega, by have := planar rfl; omega⟩
  · rw [if_neg (by omega), if_neg (by omega), if_pos (by omega), Nat.add_sub_cancel_left]
    exact ⟨0x80, 0xBF, rfl, by omega, by omega⟩

/-- The bytes of a character are read as that character. -/
theorem units_encodeChar (c : Char) (rest : List UInt8) :
    units (encodeChar c ++ rest) = some c :: units rest := by
  have bounds := toNat_bounds c
  rw [encodeChar]
  split
  · next one =>
      have small : c.toNat.toUInt8 < 0x80 := by
        rw [UInt8.lt_iff_toNat_lt, toNat_toUInt8 (by omega)]
        exact one
      rw [List.singleton_append, units, if_pos small, toNat_toUInt8 (by omega),
        Char.ofNat_toNat]
  split
  · refine units_of_lead [_] (by omega) (by omega)
      (lead?_two (by omega) (by omega)) ?_
    change followers 1 0x80 0xBF (c.toNat / 64) ((0x80 + c.toNat % 64).toUInt8 :: rest) = _
    rw [followers_succ _ _ _ (by omega) (by omega) (by omega)]
    simp only [followers, List.length_singleton, Nat.div_add_mod']
  split
  · obtain ⟨low, high, leads, above, below⟩ := @lead?_three (c.toNat / 4096) (c.toNat / 64 % 64)
      (by omega) (by omega) (by omega) (by omega)
    refine units_of_lead [_, _] (by omega) (by omega) leads ?_
    rw [List.cons_append, List.singleton_append, followers_succ _ _ _ (by omega) above below,
      followers_succ _ _ _ (by omega) (by omega) (by omega)]
    have point : (c.toNat / 4096 * 64 + c.toNat / 64 % 64) * 64 + c.toNat % 64 = c.toNat := by
      omega
    simp only [followers, point, List.length_cons, List.length_nil]
  · obtain ⟨low, high, leads, above, below⟩ := @lead?_four (c.toNat / 262144)
      (c.toNat / 4096 % 64) (by omega) (by omega) (by omega) (by omega)
    refine units_of_lead [_, _, _] (by omega) (by omega) leads ?_
    rw [List.cons_append, List.cons_append, List.singleton_append,
      followers_succ _ _ _ (by omega) above below,
      followers_succ _ _ _ (by omega) (by omega) (by omega),
      followers_succ _ _ _ (by omega) (by omega) (by omega)]
    have point : ((c.toNat / 262144 * 64 + c.toNat / 4096 % 64) * 64 + c.toNat / 64 % 64) * 64 +
        c.toNat % 64 = c.toNat := by
      omega
    simp only [followers, point, List.length_cons, List.length_nil]

theorem units_encode (text : List Char) : units (encode text) = text.map some := by
  induction text with
  | nil => simp [encode, units]
  | cons c rest ih =>
      have parts : encode (c :: rest) = encodeChar c ++ encode rest := List.flatMap_cons
      rw [parts, units_encodeChar, ih, List.map_cons]

/-- The bytes of a text are read as that text. -/
theorem decodeReplacing_encode (text : List Char) : decodeReplacing (encode text) = text := by
  rw [decodeReplacing, units_encode, List.map_map]
  exact List.map_id text

end AuditTrail.Text.Utf8
