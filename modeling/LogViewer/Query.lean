import LogViewer.Rule

/-!
# Live queries

A query typed into the search bar is a list of words, and each word is a rule: a word with one of
the four keywords asks of that field, any other word asks of the text. A query without words is one
rule that asks only for the level.

## Main definitions

- `Keyword.split`: the field that a word asks of
- `Query.criteria`: the criteria of a query's rules
- `Query.rules`: the rules of a query
-/

namespace LogViewer.Query

/-- What the rules of live queries are named by. -/
def ruleName (word : Text) : Text := "livefilter-" ++ word

/-- The rest of a text after a keyword, if it starts with it. -/
def after? (keyword word : List CodePoint) : Option Text :=
  if keyword.isPrefixOf word then some (Text.ofList (word.drop keyword.length)) else none

/-- The criteria of a word. -/
def wordCriteria (level : Level) (word : Text) : Criteria :=
  let base : Criteria := { Criteria.named (ruleName word) with level }
  let chars := word.toList
  match after? ['p', 'i', 'd', ':'] chars with
  | some pid => { base with pid }
  | none =>
    match after? ['a', 'p', 'p', ':'] chars with
    | some app => { base with app }
    | none =>
      match after? ['t', 'a', 'g', ':'] chars with
      | some tag => { base with tag }
      | none =>
        match after? ['t', 'e', 'x', 't', ':'] chars with
        | some text => { base with text }
        | none => { base with text := word }

/-- The criteria of a query, one for each word, and at least one. -/
def criteria (query : Text) (level : Level) : List Criteria :=
  match Text.words query with
  | [] => [{ Criteria.named (ruleName "") with level }]
  | words => words.map (wordCriteria level)

/-- The rules of a query, if all patterns compile. -/
def rules (query : Text) (level : Level) : Except RuleError (List Rule) :=
  (criteria query level).mapM fun c => Rule.build c false

end LogViewer.Query
