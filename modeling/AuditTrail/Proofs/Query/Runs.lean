import AuditTrail.Query.Token
import Mathlib.Data.List.SplitBy

/-!
# Runs of operands joined by AND

AND binds tighter than OR.  A row of operands, each joined to the one before it, therefore falls
into maximal runs of operands joined by AND, of which one has to hold as a whole.  The joiner of
the first operand counts for nothing.
-/

namespace AuditTrail.Query

variable {α : Type}

/-- The maximal runs of operands joined by AND. -/
def andRuns (joiner : α → Joiner) (operands : List α) : List (List α) :=
  operands.splitBy fun _ next => joiner next == .and

/-- Whether all operands of some run hold. -/
def anyRun (joiner : α → Joiner) (holds : α → Bool) (operands : List α) : Bool :=
  (andRuns joiner operands).any fun run => run.all holds

/-- The truth of joined operands behind a run that is still open and of which the truth is known.
AND goes on with the run and OR ends it. -/
def openRun (joiner : α → Joiner) (holds : α → Bool) : Bool → List α → Bool
  | known, [] => known
  | known, next :: rest =>
      match joiner next with
      | .and => openRun joiner holds (known && holds next) rest
      | .or => known || openRun joiner holds (holds next) rest

theorem andRuns_of_and (joiner : α → Joiner) (first : α) (rest : List α)
    (joined : ∀ next ∈ rest, joiner next = .and) :
    andRuns joiner (first :: rest) = [first :: rest] := by
  apply List.splitBy_of_isChain (by simp)
  induction rest generalizing first with
  | nil => simp
  | cons next rest ih =>
      rw [List.isChain_cons_cons]
      refine ⟨by simp [joined next (by simp)], ?_⟩
      exact ih next fun other member => joined other (by simp [member])

theorem andRuns_append_or (joiner : α → Joiner) (front rest : List α) (next : α)
    (parted : joiner next = .or) :
    andRuns joiner (front ++ next :: rest) =
      andRuns joiner front ++ andRuns joiner (next :: rest) := by
  apply List.splitBy_append_cons
  intro last _
  rw [parted]
  rfl

theorem anyRun_append (joiner : α → Joiner) (holds : α → Bool) (first : α) (front rest : List α)
    (joined : ∀ next ∈ front, joiner next = .and) :
    anyRun joiner holds (first :: front ++ rest) =
      openRun joiner holds ((first :: front).all holds) rest := by
  induction rest generalizing first front with
  | nil => simp [anyRun, andRuns_of_and joiner first front joined, openRun]
  | cons next rest ih =>
      cases parting : joiner next with
      | and =>
          have extended : ∀ other ∈ front ++ [next], joiner other = .and := by
            intro other member
            rcases List.mem_append.mp member with old | new
            · exact joined other old
            · rw [List.mem_singleton.mp new, parting]
          have step := ih first (front ++ [next]) extended
          simp only [openRun, parting]
          simpa [Bool.and_assoc] using step
      | or =>
          have fresh := ih next [] (by simp)
          simp only [openRun, parting]
          rw [anyRun, andRuns_append_or joiner _ rest next parting, List.any_append,
            andRuns_of_and joiner first front joined]
          rw [anyRun] at fresh
          simpa using congrArg (fun later => (first :: front).all holds || later) fresh

/-- The truth of a row of operands can be followed from left to right. -/
theorem anyRun_cons (joiner : α → Joiner) (holds : α → Bool) (first : α) (rest : List α) :
    anyRun joiner holds (first :: rest) = openRun joiner holds (holds first) rest := by
  simpa using anyRun_append joiner holds first [] rest (by simp)

theorem openRun_congr (joiner : α → Joiner) {holds other : α → Bool} (known : Bool)
    {operands : List α} (same : ∀ operand ∈ operands, holds operand = other operand) :
    openRun joiner holds known operands = openRun joiner other known operands := by
  induction operands generalizing known with
  | nil => rfl
  | cons next rest ih =>
      have tail := fun known => ih known fun operand member => same operand (by simp [member])
      simp only [openRun, same next (by simp)]
      cases joiner next with
      | and => exact tail (known && other next)
      | or => exact congrArg (known || ·) (tail (other next))

theorem openRun_map {β : Type} (joiner : β → Joiner) (holds : β → Bool) (form : α → β)
    (known : Bool) (operands : List α) :
    openRun joiner holds known (operands.map form) =
      openRun (joiner ∘ form) (holds ∘ form) known operands := by
  induction operands generalizing known with
  | nil => rfl
  | cons next rest ih =>
      simp only [List.map_cons, openRun, Function.comp_apply]
      cases joiner (form next) with
      | and => exact ih (known && holds (form next))
      | or => exact congrArg (known || ·) (ih (holds (form next)))

/-- Runs keep their truth when the operands are put in another form with the same joiners. -/
theorem anyRun_map {β : Type} (joiner : β → Joiner) (holds : β → Bool) (form : α → β)
    (operands : List α) :
    anyRun joiner holds (operands.map form) =
      anyRun (joiner ∘ form) (holds ∘ form) operands := by
  cases operands with
  | nil => rfl
  | cons first rest =>
      rw [List.map_cons, anyRun_cons, anyRun_cons]
      exact openRun_map joiner holds form (holds (form first)) rest

/-- Operands that are all joined by AND all have to hold. -/
theorem openRun_and (holds : α → Bool) (known : Bool) (rest : List α) :
    openRun Prod.fst (fun next => holds next.2) known (rest.map fun next => (Joiner.and, next)) =
      (known && rest.all holds) := by
  induction rest generalizing known with
  | nil => simp [openRun]
  | cons next rest ih => simp only [List.map_cons, openRun, ih, List.all_cons, Bool.and_assoc]

/-- Of operands that are all joined by OR one has to hold. -/
theorem openRun_or (holds : α → Bool) (known : Bool) (rest : List α) :
    openRun Prod.fst (fun next => holds next.2) known (rest.map fun next => (Joiner.or, next)) =
      (known || rest.any holds) := by
  induction rest generalizing known with
  | nil => simp [openRun]
  | cons next rest ih => simp only [List.map_cons, openRun, ih, List.any_cons]

end AuditTrail.Query
