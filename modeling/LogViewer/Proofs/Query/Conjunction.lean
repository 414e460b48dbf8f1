import LogViewer.Panel
import LogViewer.Proofs.Query.Valid
import LogViewer.Proofs.Text.Words
import Mathlib.Data.List.Basic

/-!
# Queries as conjunctions

A live query lets a message through if the message has the level of the query and every word of the
query lets it through. A query without words is no exception: its only rule asks for the level. So
two queries written one behind the other show what both of them show, and what a query shows depends
on which words it has, and neither on their order and number nor on the white space between them.

## Main definitions

- `Query.Passes`: a word lets a message through
- `Query.Shows`: a query lets a message through
- `Query.fault?`: the fault of a query

## Main statements

- `Query.all_matches_iff`, `Query.rules_eq_error_iff`: what the rules of a query let through, and
  when there are none
- `Panel.visible_of_setQuery`: what is visible under a live query
- `Panel.visible_conjunction`: live queries compose
-/

namespace LogViewer

/-! ## §1 Levels -/

/-- A level is as high as both of two levels if it is as high as the higher one. -/
theorem Level.max_le_iff {a b l : Level} : max a b ≤ l ↔ a ≤ l ∧ b ≤ l := by
  show (if a.priority ≤ b.priority then b else a).priority ≤ l.priority
    ↔ a.priority ≤ l.priority ∧ b.priority ≤ l.priority
  split <;> omega

theorem Level.le_trans {a b c : Level} (h : a ≤ b) (h' : b ≤ c) : a ≤ c := Nat.le_trans h h'

/-- Building a rule fails as compiling its patterns does. -/
theorem Rule.errorOf?_build (c : Criteria) (transient : Bool) :
    errorOf? (build c transient) = errorOf? c.compile := by
  unfold build
  split
  · next patterns hcompile => exact (congrArg errorOf? hcompile).symm
  · next e hcompile => exact (congrArg errorOf? hcompile).symm

/-- A rule at a level lets through what has the level and what the rule without a level lets
through. -/
theorem Rule.exists_matches_iff {c : Criteria} {level : Level} {transient : Bool} {m : Message} :
    (∃ r, build { c with level } transient = .ok r ∧ r.matches m = true) ↔
      level ≤ m.level ∧
        ∃ r, build { c with level := .verbose } transient = .ok r ∧ r.matches m = true := by
  -- The level is no part of what is compiled, so both rules have the same patterns.
  have hmatches : ∀ patterns (h : c.compile = .ok patterns),
      (Rule.mk { c with level } patterns transient 0 h).matches m = true ↔ level ≤ m.level ∧
        (Rule.mk { c with level := .verbose } patterns transient 0 h).matches m = true := by
    intro patterns h
    simp only [«matches», Bool.and_eq_true, decide_eq_true_eq, Level.verbose_le, true_and,
      and_assoc]
  simp only [build_eq_ok_iff]
  constructor
  · rintro ⟨_, ⟨patterns, h, rfl⟩, hm⟩
    obtain ⟨hlevel, hrest⟩ := (hmatches patterns h).1 hm
    exact ⟨hlevel, _, ⟨patterns, h, rfl⟩, hrest⟩
  · rintro ⟨hlevel, _, ⟨patterns, h, rfl⟩, hm⟩
    exact ⟨_, ⟨patterns, h, rfl⟩, (hmatches patterns h).2 ⟨hlevel, hm⟩⟩

namespace Query

open LogViewer.Text (words words_eq_iff words_space Spaced)

/-! ## §2 Words -/

/-- A word lets a message through: the rule of the word, at the lowest level, matches it. -/
def Passes (m : Message) (word : Text) : Prop :=
  ∃ r, Rule.build (wordCriteria .verbose word) false = .ok r ∧ r.matches m = true

/-- A query lets a message through: it has the level, and every word lets it through. -/
def Shows (query : Text) (level : Level) (m : Message) : Prop :=
  level ≤ m.level ∧ ∀ word ∈ words query, Passes m word

/-- The fault of a query: that of the first word whose pattern is refused. -/
def fault? (query : Text) : Option RuleError :=
  (words query).findSome? fun word => errorOf? (wordCriteria .verbose word).compile

/-- The criteria of a query's rules, where there are words. -/
theorem criteria_of_words {query : Text} (h : words query ≠ []) (level : Level) :
    criteria query level = (words query).map (wordCriteria level) := by
  unfold criteria
  cases hwords : words query with
  | nil => exact absurd hwords h
  | cons word words => rfl

/-- The criteria of a query without words. -/
theorem criteria_of_no_words {query : Text} (h : words query = []) (level : Level) :
    criteria query level = [{ Criteria.named (ruleName "") with level }] := by
  unfold criteria
  rw [h]

/-- The rule of a word at a level lets through what has the level and what the word lets through. -/
theorem exists_word_iff {word : Text} {level : Level} {m : Message} :
    (∃ r, Rule.build (wordCriteria level word) false = .ok r ∧ r.matches m = true) ↔
      level ≤ m.level ∧ Passes m word := by
  rw [wordCriteria_eq level word, Rule.exists_matches_iff, ← wordCriteria_eq]
  exact Iff.rfl

/-- The rule of a query without words asks only for the level. -/
theorem exists_named_iff {name : Text} {level : Level} {m : Message} :
    (∃ r, Rule.build { Criteria.named name with level } false = .ok r ∧ r.matches m = true) ↔
      level ≤ m.level := by
  rw [Rule.exists_matches_iff, and_iff_left_iff_imp]
  intro _
  exact ⟨⟨.named name, ⟨none, none, none⟩, false, 0, rfl⟩, rfl, Rule.matches_of_named rfl m⟩

/-- The rules of a query let a message through exactly if it has the level and every word lets it
through. -/
theorem all_matches_iff {query : Text} {level : Level} {live : List Rule}
    (h : rules query level = .ok live) (m : Message) :
    (live.all fun r => r.matches m) = true ↔ Shows query level m := by
  rw [List.all_eq_true, forall_mem_mapM_iff h fun r => r.matches m = true]
  unfold Shows
  by_cases hwords : words query = []
  · rw [criteria_of_no_words hwords, hwords]
    simp only [List.forall_mem_singleton, exists_named_iff, List.not_mem_nil, false_imp_iff,
      implies_true, and_true]
  · rw [criteria_of_words hwords, List.forall_mem_map]
    simp only [exists_word_iff]
    obtain ⟨word, hword⟩ := List.exists_mem_of_ne_nil _ hwords
    exact ⟨fun hall => ⟨(hall word hword).1, fun w hw => (hall w hw).2⟩,
      fun hall w hw => ⟨hall.1, hall.2 w hw⟩⟩

/-- A query has no rules exactly if it has a fault, which does not depend on the level. -/
theorem rules_eq_error_iff {query : Text} {level : Level} {e : RuleError} :
    rules query level = .error e ↔ fault? query = some e := by
  unfold rules
  rw [mapM_eq_error_iff]
  simp only [Rule.errorOf?_build]
  unfold fault?
  by_cases hwords : words query = []
  · -- A rule that asks only for the level can always be built.
    rw [criteria_of_no_words hwords, hwords]
    exact Iff.rfl
  · rw [criteria_of_words hwords, List.findSome?_map]
    have hcompile : ∀ word, errorOf? (wordCriteria level word).compile
        = errorOf? (wordCriteria .verbose word).compile := by
      intro word
      rw [wordCriteria_eq level word]
      rfl
    simp only [Function.comp_def, hcompile]

/-- What a query lets through depends on the words that it has. -/
theorem Shows.of_words {query query' : Text} {level level' : Level} {m : Message}
    (h : Shows query' level' m) (hwords : words query ⊆ words query') (hlevel : level ≤ level') :
    Shows query level m :=
  ⟨Level.le_trans hlevel h.1, fun word hword => h.2 word (hwords hword)⟩

/-- A query without a fault has none of the faults of its words. -/
theorem fault?_eq_none_of_words {query query' : Text} (h : fault? query' = none)
    (hwords : words query ⊆ words query') : fault? query = none := by
  unfold fault? at h ⊢
  rw [List.findSome?_eq_none_iff] at h ⊢
  exact fun word hword => h word (hwords hword)

/-- Two queries with a space between them let through what both of them do. -/
theorem shows_append_iff {q₁ q₂ : Text} {l₁ l₂ : Level} {m : Message} :
    Shows (q₁ ++ " " ++ q₂) (max l₁ l₂) m ↔ Shows q₁ l₁ m ∧ Shows q₂ l₂ m := by
  unfold Shows
  rw [words_space, Level.max_le_iff, List.forall_mem_append]
  exact and_and_and_comm

/-- Two queries with a space between them have the fault of the first one, or else that of the
second. -/
theorem fault?_append (q₁ q₂ : Text) : fault? (q₁ ++ " " ++ q₂) = (fault? q₁).or (fault? q₂) := by
  unfold fault?
  rw [words_space, List.findSome?_append]

end Query

namespace Panel

variable {p p₁ p₂ : Panel} {q q' : Text} {l l' : Level}

/-! ## §3 What is visible -/

/-- Setting a live query fails with the fault of the query, whatever the panel and the level. -/
theorem setQuery_eq_error_iff {e : RuleError} :
    p.setQuery q l = .error e ↔ Query.fault? q = some e := by
  unfold setQuery
  rw [bind_eq_error_iff, Query.rules_eq_error_iff, or_iff_left_iff_imp]
  rintro ⟨_, _, hset⟩
  cases hset

/-- A live query is set exactly if it has no fault. -/
theorem exists_setQuery_iff : (∃ p₁, p.setQuery q l = .ok p₁) ↔ Query.fault? q = none := by
  cases hset : p.setQuery q l with
  | error e => simp [setQuery_eq_error_iff.1 hset]
  | ok p₁ =>
    refine iff_of_true ⟨p₁, rfl⟩ (Option.eq_none_iff_forall_ne_some.2 ?_)
    intro e he
    rw [setQuery_eq_error_iff.2 he] at hset
    cases hset

/-- Under a live query those messages of the store are visible that the selected rule and the query
let through. -/
theorem visible_of_setQuery (h : p.setQuery q l = .ok p₁) :
    p₁.visible = p.store.messages.filter p₁.shows ∧ ∀ m, p₁.shows m = true ↔
      p.rules.selectedRule.matches m = true ∧ Query.Shows q l m := by
  unfold setQuery at h
  obtain ⟨live, hlive, hset⟩ := bind_eq_ok_iff.1 h
  cases hset
  refine ⟨rfl, fun m => ?_⟩
  unfold shows
  rw [Bool.and_eq_true, ← Query.all_matches_iff hlive m]
  exact Iff.rfl

/-- More words and a higher level show fewer messages. -/
theorem visible_sublist (h₁ : p.setQuery q l = .ok p₁) (h₂ : p.setQuery q' l' = .ok p₂)
    (hshows : ∀ m, Query.Shows q' l' m → Query.Shows q l m) :
    p₂.visible.Sublist p₁.visible := by
  obtain ⟨hvisible₁, hiff₁⟩ := visible_of_setQuery h₁
  obtain ⟨hvisible₂, hiff₂⟩ := visible_of_setQuery h₂
  rw [hvisible₁, hvisible₂]
  refine List.monotone_filter_right _ fun m hm => ?_
  obtain ⟨hrule, hquery⟩ := (hiff₂ m).1 hm
  exact (hiff₁ m).2 ⟨hrule, hshows m hquery⟩

/-- With more words and a higher level, a live query that can be set could be set before, and shows
no other messages. -/
theorem narrows (hwords : Text.words q ⊆ Text.words q') (hlevel : l ≤ l')
    (h₂ : p.setQuery q' l' = .ok p₂) :
    ∃ p₁, p.setQuery q l = .ok p₁ ∧ p₂.visible.Sublist p₁.visible := by
  have hfault : Query.fault? q = none :=
    Query.fault?_eq_none_of_words (exists_setQuery_iff.1 ⟨p₂, h₂⟩) hwords
  obtain ⟨p₁, h₁⟩ := exists_setQuery_iff.2 hfault
  exact ⟨p₁, h₁, visible_sublist h₁ h₂ fun m hm => hm.of_words hwords hlevel⟩

/-- Two queries with a space between them fail with the fault of the first one, or with that of the
second if the first one has none. -/
theorem setQuery_append_eq_error_iff {q₁ q₂ : Text} {l₁ l₂ : Level} {e : RuleError} :
    p.setQuery (q₁ ++ " " ++ q₂) (max l₁ l₂) = .error e ↔ p.setQuery q₁ l₁ = .error e ∨
      (∃ p₁, p.setQuery q₁ l₁ = .ok p₁) ∧ p.setQuery q₂ l₂ = .error e := by
  simp only [setQuery_eq_error_iff, exists_setQuery_iff, Query.fault?_append, Option.or_eq_some_iff]

/-- Two queries with a space between them show, in the order of the store, what both of them show.
-/
theorem visible_append {q₁ q₂ : Text} {l₁ l₂ : Level} (h₁ : p.setQuery q₁ l₁ = .ok p₁)
    (h₂ : p.setQuery q₂ l₂ = .ok p₂) :
    ∃ p₁₂, p.setQuery (q₁ ++ " " ++ q₂) (max l₁ l₂) = .ok p₁₂ ∧
      p₁₂.visible = p.store.messages.filter fun m => m ∈ p₁.visible ∧ m ∈ p₂.visible := by
  have hfault : Query.fault? (q₁ ++ " " ++ q₂) = none := by
    rw [Query.fault?_append, exists_setQuery_iff.1 ⟨p₁, h₁⟩, exists_setQuery_iff.1 ⟨p₂, h₂⟩]
    rfl
  obtain ⟨p₁₂, h₁₂⟩ := exists_setQuery_iff.2 hfault
  obtain ⟨hvisible₁, hiff₁⟩ := visible_of_setQuery h₁
  obtain ⟨hvisible₂, hiff₂⟩ := visible_of_setQuery h₂
  obtain ⟨hvisible, hiff⟩ := visible_of_setQuery h₁₂
  refine ⟨p₁₂, h₁₂, hvisible.trans (List.filter_congr fun m hm => ?_)⟩
  rw [Bool.eq_iff_iff, decide_eq_true_eq, hvisible₁, hvisible₂, List.mem_filter, List.mem_filter,
    hiff, hiff₁, hiff₂, Query.shows_append_iff]
  simp only [hm, true_and]
  exact and_and_left

end Panel

end LogViewer
