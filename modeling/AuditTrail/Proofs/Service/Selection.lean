import AuditTrail.Proofs.Service.Search

/-!
# The statements of a search

A search counts what matches and then fetches one page of it under the same conditions; it asks
nothing where its text leaves nothing to search for.  A statement that fails ends the search.
-/

namespace AuditTrail.Query

end AuditTrail.Query

namespace AuditTrail.Service

open Text Query Sql

/-- A statement that counts, and one that gives the requested page of what it counts: their texts
have the lines of the conditions in common, and the page has two more parameters. -/
structure IsPair (request : PageRequest) (plan : Plan) (count page : Statement) : Prop where
  counts : count.text = join ['\n'] (
    ["SELECT".toList, "    COUNT(*) AS total".toList, "FROM audit_logs".toList] ++
      whereLines plan.clauses)
  fetches : page.text = join ['\n'] (
    ["SELECT".toList, "    ".toList ++ plan.select, "FROM audit_logs".toList] ++
      whereLines plan.clauses ++ ["ORDER BY".toList, "    ".toList ++ plan.key.text,
        "LIMIT :limit".toList, "OFFSET :offset".toList])
  bindings : page.bindings = count.bindings ++
    [("limit", .int request.size), ("offset", .int ((request.page - 1) * request.size))]

theorem isPair_of_plan {request : PageRequest} (plan : Plan) (first : 1 ≤ request.page)
    (within : 1 ≤ request.size ∧ request.size ≤ 1000) :
    IsPair request plan plan.count
      (plan.page ⟨request.size.toNat, ((request.page - 1) * request.size).toNat⟩) := by
  have limit : (request.size.toNat : Int) = request.size := Int.toNat_of_nonneg (by omega)
  have offset : (((request.page - 1) * request.size).toNat : Int) =
      (request.page - 1) * request.size :=
    Int.toNat_of_nonneg (Int.mul_nonneg (by omega) (by omega))
  have total : indent selectCount = "    COUNT(*) AS total".toList := by decide
  have table : "FROM ".toList ++ tableName = "FROM audit_logs".toList := by decide
  constructor
  · rw [Plan.count, countStatement, selection, total, table]
    simp only [orderLines, windowLines, Bool.false_eq_true, ↓reduceIte, List.append_nil]
  · rw [Plan.page, pageStatement, selection, table]
    simp only [orderLines, windowLines, indent, ↓reduceIte, List.map_nil, List.append_assoc,
      List.cons_append, List.nil_append]
  · rw [Plan.page, pageStatement, limit, offset]
    rfl

end AuditTrail.Service
