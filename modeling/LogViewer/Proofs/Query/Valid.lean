import LogViewer.Proofs.Outcomes
import LogViewer.Proofs.Rules.Changes
import LogViewer.Query

/-!
# Valid queries

A query is valid if the patterns of all its words compile. The level is no part of a pattern, so a
query is valid at one level exactly if it is valid at every other.

## Main definitions

- `Query.Valid`: the rules of a query can be built

## Main statements

- `Query.exists_rules_iff`: the rules can be built if all patterns compile
- `Query.Valid.exists_rules`: they can be built at every level
-/

namespace LogViewer.Query

/-- The rules of a query can be built. -/
def Valid (query : Text) : Prop := ∃ level live, rules query level = .ok live

/-- The criteria of a word at another level differ in nothing else. -/
theorem wordCriteria_eq (level : Level) (word : Text) :
    wordCriteria level word = { wordCriteria .verbose word with level } := by
  unfold wordCriteria
  -- Each keyword decides for another field, and none of them for the level.
  dsimp only
  repeat' split
  all_goals rfl

/-- The criteria of a query at another level differ in nothing else. -/
theorem criteria_eq_map (query : Text) (level : Level) :
    criteria query level = (criteria query .verbose).map fun c => { c with level } := by
  unfold criteria
  cases Text.words query with
  | nil => rfl
  | cons word words =>
    rw [List.map_map]
    apply List.map_congr_left
    intro word _
    exact wordCriteria_eq level word

/-- The rules of a query can be built exactly if all its patterns compile. -/
theorem exists_rules_iff (query : Text) (level : Level) :
    (∃ live, rules query level = .ok live) ↔
      ∀ c ∈ criteria query .verbose, ∃ patterns, c.compile = .ok patterns := by
  unfold rules
  rw [exists_mapM_iff, criteria_eq_map]
  simp only [Rule.exists_build_iff, List.forall_mem_map]
  exact Iff.rfl

/-- A valid query has rules at every level. -/
theorem Valid.exists_rules {query : Text} (h : Valid query) (level : Level) :
    ∃ live, rules query level = .ok live := by
  obtain ⟨level', hlive⟩ := h
  rw [exists_rules_iff] at hlive ⊢
  exact hlive

/-- Nothing is a valid query. -/
theorem valid_empty : Valid "" := ⟨.verbose, _, rfl⟩

end LogViewer.Query
