import AuditTrail.Proofs.Service.Selection
import AuditTrail.Proofs.Sql.Placeholder

/-!
# The parameters of a search

Whatever is searched for or listed, every statement is executed with exactly the parameters that
its text has placeholders for, and every condition finds its own term under its own names.
-/

namespace AuditTrail.Service

open Text Query Sql

/-- The clauses of a plan, the bounds on the time apart, with what is bound for them. -/
theorem Strategy.areFilled_of_plan {configuration : Except Fault String} {request : PageRequest}
    {strategy : Strategy} {plan : Plan}
    (planned : strategy.plan configuration request = .ok (some plan)) :
    ∃ clauses own, AreFilled clauses own ∧
      plan.clauses = clauses ++ request.range.clause?.toList ∧
      plan.bindings = own ++ request.range.bindings ∧
      placeholders plan.select ⊆ clauses.flatMap placeholders := by
  have columns : placeholders selectColumns = [] := placeholders_of_not_mem (by decide +kernel)
  cases strategy with
  | listing =>
      obtain rfl := Option.some.inj (Except.ok.inj planned)
      exact ⟨[], [], .nil, rfl, rfl, by simp [columns]⟩
  | columns conditions =>
      obtain ⟨filter, own, built, rfl⟩ := filterOf_of_plan planned
      exact ⟨_, own, .filter built, rfl, rfl, by simp [columns]⟩
  | fullText expression =>
      obtain ⟨name, rfl, asked⟩ := fullText_of_plan planned
      obtain rfl := Option.some.inj asked
      refine ⟨[matchClause], _, .search _ _, rfl, rfl, ?_⟩
      have ranked : placeholders selectRanked ⊆ [matchClause].flatMap placeholders := by
        decide +kernel
      exact ranked
  | nothing => cases planned

/-- Both statements of a plan are filled. -/
theorem Strategy.isFilled_of_plan {configuration : Except Fault String} {request : PageRequest}
    {strategy : Strategy} {plan : Plan}
    (planned : strategy.plan configuration request = .ok (some plan)) :
    plan.count.IsFilled ∧ ∀ window, (plan.page window).IsFilled := by
  obtain ⟨clauses, own, filled, parts, bindings, selected⟩ := areFilled_of_plan planned
  have counted : placeholders selectCount = [] := placeholders_of_not_mem (by decide)
  constructor
  · have count := filled.isFilled request.range selectCount (by simp [counted]) none false []
      .nil (List.nil_sublist _)
    rw [Plan.count, countStatement, parts, bindings]
    rwa [List.append_nil] at count
  · intro window
    have bound : AreBound ["limit".toList, "offset".toList]
        [("limit", .int window.limit), ("offset", .int window.offset)] :=
      (areBound_single "limit" _).append (areBound_single "offset" _)
    rw [Plan.page, pageStatement, parts, bindings]
    exact filled.isFilled request.range plan.select selected (some plan.key) true _ bound (.refl _)

end AuditTrail.Service
