import AuditTrail.Json.Reader

/-!
# Room for nested lists and maps

A text that is read in some room, or refused for anything else than its depth, is read alike in any
other room that is not too little for it.
-/

namespace AuditTrail.Json

/-- Whether more room gives the same, unless there was too little of it before. -/
def Outgrows {α : Type} (less more : Except Trouble α) : Prop :=
  less = .error .tooDeep ∨ more = less

namespace Outgrows

variable {α β : Type}

theorem refl (result : Except Trouble α) : Outgrows result result := .inr rfl

theorem bind {less more : Except Trouble α} {next other : α → Except Trouble β}
    (begun : Outgrows less more) (gone : ∀ a, Outgrows (next a) (other a)) :
    Outgrows (less >>= next) (more >>= other) := by
  rcases begun with rfl | rfl
  · exact .inl rfl
  · cases more with
    | error trouble => exact .refl _
    | ok a => exact gone a

end Outgrows

/-- The reader of values, items and entries gives the same in one more level of room. -/
theorem outgrows_value (fuel : Nat) :
    (∀ depth text, Outgrows (value fuel depth text) (value fuel (depth + 1) text)) ∧
    (∀ depth text, Outgrows (items fuel depth text) (items fuel (depth + 1) text)) ∧
    ∀ depth before text,
      Outgrows (entries fuel depth before text) (entries fuel (depth + 1) before text) := by
  induction fuel with
  | zero =>
      refine ⟨fun _ _ => ?_, fun _ _ => ?_, fun _ _ _ => ?_⟩
      · rw [value, value]
        exact .refl _
      · rw [items, items]
        exact .refl _
      · rw [entries, entries]
        exact .refl _
  | succ fuel ih =>
      obtain ⟨values, lists, maps⟩ := ih
      refine ⟨fun depth text => ?_, fun depth text => ?_, fun depth before text => ?_⟩
      · unfold value
        split
        · exact .refl _
        · cases depth with
          | zero => exact .inl rfl
          | succ depth =>
              dsimp only
              split
              · exact .refl _
              · exact .bind (lists depth _) fun _ => .refl _
        · cases depth with
          | zero => exact .inl rfl
          | succ depth =>
              dsimp only
              split
              · exact .refl _
              · exact .bind (maps depth [] _) fun _ => .refl _
        · exact .refl _
      · rw [items, items]
        refine .bind (values depth text) fun found => ?_
        dsimp only
        split
        · exact .refl _
        · exact .bind (lists depth _) fun _ => .refl _
        · exact .refl _
      · unfold entries
        split
        · split
          · exact .refl _
          · split
            · refine .bind (values depth _) fun found => ?_
              dsimp only
              split
              · exact .refl _
              · exact maps depth _ _
              · exact .refl _
            · exact .refl _
        · exact .refl _

theorem read_of_le {less more : Nat} {text : List Char} (within : less ≤ more)
    (enough : read less text ≠ .error .tooDeep) : read more text = read less text := by
  induction within with
  | refl => rfl
  | @step middle within ih =>
      have grown := (outgrows_value (2 * text.length + 2)).1 middle (skipSpace text)
      have same : Outgrows (read middle text) (read (middle + 1) text) :=
        grown.bind fun _ => .refl _
      exact (same.resolve_left (ih ▸ enough)).trans ih

/-- Two rooms that are not too little for a text are alike to it. -/
theorem read_eq_of_enough {room other : Nat} {text : List Char}
    (enough : read room text ≠ .error .tooDeep) (also : read other text ≠ .error .tooDeep) :
    read room text = read other text := by
  rcases Nat.le_total room other with less | more
  · exact (read_of_le less enough).symm
  · exact read_of_le more also

end AuditTrail.Json
