import LootSpawn.Proofs.Lint.LootChecks

/-!
# Errors and warnings

Whatever a linter finds in an accepted source is a warning, and each rejected source is one error.
-/

namespace LootSpawn

namespace Linter

theorem severity_of_mem_spawnIssues {origin : String} {source : Source} :
    ∀ issue ∈ spawnIssues origin source, issue.severity = .warning :=
  forall_mem_spawnIssues (P := (·.severity = .warning)) (fun _ => rfl) fun _ _ => rfl

theorem severity_of_mem_emptyIssues {origin : String} {records : List (Numbered Record)} :
    ∀ issue ∈ emptyIssues origin records, issue.severity = .warning :=
  forall_mem_emptyIssues (P := (·.severity = .warning)) (fun _ => rfl) fun _ => rfl

/-- Warnings are no errors. -/
theorem errorCount_append_warnings (linter : Linter) {warnings : List Issue}
    (h : ∀ issue ∈ warnings, issue.severity = .warning) :
    ({ linter with issues := linter.issues ++ warnings } : Linter).errorCount =
      linter.errorCount := by
  have hnone : warnings.countP (·.severity == .error) = 0 := by
    rw [List.countP_eq_zero]
    intro issue hissue
    rw [h issue hissue]
    decide
  rw [errorCount, List.countP_append, hnone]
  rfl

theorem severity_of_isAboutLoot {issue : Issue} (h : issue.finding.isAboutLoot = true) :
    issue.severity = .warning :=
  Finding.of_isAboutLoot (P := (·.severity = .warning)) (fun _ => rfl) (fun _ _ _ _ => rfl) h

theorem errorCount_foldl_checkLoot (origin : String) (linter : Linter)
    (loots : List (Numbered (String × LootEntry))) :
    (loots.foldl (checkLoot origin) linter).errorCount = linter.errorCount := by
  obtain ⟨issues, hissues, hloot⟩ := exists_issues_foldl_checkLoot origin linter loots
  rw [errorCount, hissues]
  exact errorCount_append_warnings linter fun issue hissue =>
    severity_of_isAboutLoot (hloot issue hissue)

/-- An accepted source adds no error. -/
theorem errorCount_check (linter : Linter) (origin : String) (source : Source) :
    (linter.check origin source).errorCount = linter.errorCount := by
  rw [check, errorCount_append_warnings _ severity_of_mem_emptyIssues, errorCount_foldl_checkLoot,
    errorCount_append_warnings _ severity_of_mem_spawnIssues]

/-- A rejected source is one error. -/
theorem errorCount_reject (linter : Linter) (origin : String) (error : ReadError) :
    (linter.reject origin error).errorCount = linter.errorCount + 1 := by
  rw [reject, errorCount, List.countP_append]
  rfl

end Linter

end LootSpawn
