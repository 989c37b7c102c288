/-!
Sets of code points, kept as inclusive ranges in ascending order.
-/

namespace AuditTrail.Text

/-- Membership of a code point; the scan ends at the first range that begins past it. -/
def inRanges : List (Nat × Nat) → Nat → Bool
  | [], _ => false
  | (first, last) :: rest, point =>
    if point < first then false else if point ≤ last then true else inRanges rest point

/-- A code point that is found lies in one of the ranges. -/
theorem exists_mem_of_inRanges {ranges : List (Nat × Nat)} {point : Nat}
    (h : inRanges ranges point = true) :
    ∃ range ∈ ranges, range.1 ≤ point ∧ point ≤ range.2 := by
  induction ranges with
  | nil => simp [inRanges] at h
  | cons range rest ih =>
    obtain ⟨first, last⟩ := range
    by_cases below : point < first
    · simp [inRanges, below] at h
    · by_cases within : point ≤ last
      · exact ⟨(first, last), by simp, by omega, within⟩
      · simp only [inRanges, below, within, if_false] at h
        obtain ⟨range, member, bounds⟩ := ih h
        exact ⟨range, by simp [member], bounds⟩

end AuditTrail.Text
