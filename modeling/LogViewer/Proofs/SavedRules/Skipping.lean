import LogViewer.Panel
import LogViewer.Proofs.Outcomes
import LogViewer.Proofs.Pattern.Counts
import LogViewer.Proofs.SavedRules.Reload
import Mathlib.Data.List.TakeWhile

/-!
# Bad lines of saved rules

Each line of a saved text is read for itself. A line that is no rule costs a warning with its number
and nothing else, unless the repetition number of a pattern is too large to be counted: such a line
ends the reading, and with it the start of a panel.

## Main definitions

- `fault?`: the fault of a line that ends the reading
- `ending?`: what ends the reading at a line, with the stack
- `warning?`: the warning for a line that is skipped

## Main statements

- `hasLargeNumber_of_fault?`: what ends the reading is written in a pattern
- `decodeLines_eq`: what reading lines comes to, in terms of each line alone
- `decodeAll_skips`: every bad line that does not end the reading costs only itself
-/

namespace LogViewer

/-! ## §1 Blank lines -/

namespace Json

/-- No white space character is a digit. -/
theorem isDigit_of_isBlank {c : CodePoint} (hc : Text.isBlank c = true) : isDigit c = false := by
  rw [Bool.eq_false_iff]
  intro hdigit
  have hcode : 48 ≤ c.toNat ∧ c.toNat ≤ 57 := by
    simpa [isDigit, CodePoint.le_def] using hdigit
  obtain ⟨hlow, hhigh⟩ := hcode
  simp only [Text.isBlank, Text.isBlankCode, Bool.or_eq_true, Bool.and_eq_true, decide_eq_true_eq,
    beq_iff_eq] at hc
  omega

/-- No white space character begins a value. -/
theorem readValue_of_isBlank {fuel : Nat} {c : CodePoint} (hc : Text.isBlank c = true)
    (rest : List CodePoint) : ∃ e, readValue fuel (c :: rest) = .error e := by
  cases fuel with
  | zero => exact ⟨_, rfl⟩
  | succ fuel =>
    have hne : ∀ d, Text.isBlank d = false → c ≠ d := by
      rintro d hd rfl
      rw [hd] at hc
      cases hc
    rw [readValue]
    · -- Only a number is left that could begin here.
      have hsign := hne '-' (by decide)
      have hzero := hne '0' (by decide)
      refine ⟨.malformed .expectingValue (c :: rest).length, ?_⟩
      simp [readNumber, spanDigits, isDigit_of_isBlank hc, hsign, hzero, refuse]
    all_goals
      intro rest' h
      exact hne _ (by decide) (List.cons.inj h).1

/-- A text that is all white space holds no value. -/
theorem readChars_of_isBlank {s : List CodePoint} (h : s.all Text.isBlank = true) :
    ∃ e, readChars s = .error e := by
  have hblank : ∀ c ∈ s, Text.isBlank c = true := List.all_eq_true.1 h
  have hvalue : ∃ e, readValue (2 * s.length + 2) (skipSpace s) = .error e := by
    cases hskip : skipSpace s with
    | nil => exact ⟨_, rfl⟩
    | cons c rest =>
      have hmem : c ∈ s := by
        have hsuffix : c :: rest <:+ s := hskip ▸ List.dropWhile_suffix _
        exact hsuffix.subset (List.mem_cons_self ..)
      exact readValue_of_isBlank (hblank c hmem) rest
  obtain ⟨e, he⟩ := hvalue
  unfold readChars
  split
  · exact ⟨_, rfl⟩
  · rw [he]
    exact ⟨e, rfl⟩

end Json

/-! ## §2 Refused patterns -/

/-- A field is refused with what the compiler says of its pattern. -/
theorem compile_of_compileField {field : PatternField} {pattern : Text} {e : RuleError}
    (h : compileField field pattern = .error e) : Pattern.compile e.pattern = .error e.error := by
  unfold compileField at h
  split at h
  · cases h
  · cases hcompile : Pattern.compile pattern with
    | ok p =>
      rw [hcompile] at h
      cases h
    | error cause =>
      rw [hcompile] at h
      cases h
      exact hcompile

/-- Criteria are refused with what the compiler says of one of their patterns. -/
theorem Criteria.compile_pattern {c : Criteria} {e : RuleError} (h : c.compile = .error e) :
    Pattern.compile e.pattern = .error e.error := by
  unfold Criteria.compile at h
  rcases bind_eq_error_iff.1 h with htag | ⟨tag, -, h⟩
  · exact compile_of_compileField htag
  rcases bind_eq_error_iff.1 h with htext | ⟨text, -, h⟩
  · exact compile_of_compileField htext
  rcases bind_eq_error_iff.1 h with happ | ⟨app, -, h⟩
  · exact compile_of_compileField happ
  · cases h

/-- Building a rule fails with what the compiler says of one of its patterns. -/
theorem Rule.build_pattern {c : Criteria} {transient : Bool} {e : RuleError}
    (h : Rule.build c transient = .error e) : Pattern.compile e.pattern = .error e.error := by
  unfold Rule.build at h
  split at h
  · cases h
  · next e' hcompile =>
    cases h
    exact Criteria.compile_pattern hcompile

namespace SavedRule

/-- Missing and ill-typed members are other faults than refused patterns. -/
@[grind ←]
theorem avoids_field (members : Json.Members) (key otherwise : Text) (e : RuleError) :
    Avoids (.rule e) (field members key otherwise) := by
  unfold field
  split
  · exact avoids_pure _
  · exact avoids_pure _
  · exact avoids_throw (by simp)

@[grind ←]
theorem avoids_pidField (members : Json.Members) (e : RuleError) :
    Avoids (.rule e) (pidField members) := by
  unfold pidField
  split
  · exact avoids_pure _
  · exact avoids_field members "pid" "" e

@[grind ←]
theorem avoids_levelField (members : Json.Members) (e : RuleError) :
    Avoids (.rule e) (levelField members) := by
  refine avoids_bind (avoids_field members "level" _ e) fun text => ?_
  cases Level.parse text with
  | ok level => exact avoids_pure _
  | error unknown => exact avoids_throw (by simp)

theorem avoids_criteriaOf (members : Json.Members) (e : RuleError) :
    Avoids (.rule e) (criteriaOf members) := by
  unfold criteriaOf
  split
  · exact avoids_bind (avoids_throw (by simp)) fun _ => by grind
  · grind

/-- A line whose rule is refused is refused for what the compiler says of one of its patterns. -/
theorem decode_pattern {line : Text} {e : RuleError} (h : decode line = .error (.rule e)) :
    Pattern.compile e.pattern = .error e.error := by
  unfold decode at h
  -- No fault but that of a pattern is one of a rule: not in the text, nor in its members.
  rcases bind_eq_error_iff.1 h with hread | ⟨v, -, h⟩
  · cases hjson : Json.read line with
    | ok v =>
      rw [hjson] at hread
      cases hread
    | error e' =>
      rw [hjson] at hread
      cases hread
  cases v with
  | obj members =>
    rcases bind_eq_error_iff.1 h with hcriteria | ⟨c, -, hbuild⟩
    · exact absurd hcriteria (avoids_criteriaOf members e)
    · cases hrule : Rule.build c false with
      | ok r =>
        rw [hrule] at hbuild
        cases hbuild
      | error e' =>
        rw [hrule] at hbuild
        cases hbuild
        exact Rule.build_pattern hrule
  | _ => cases h

end SavedRule

namespace SavedRules

/-! ## §3 Single lines -/

/-- A blank line is no rule, and does not end the reading. -/
theorem skipped_of_isBlankLine {line : Text} (h : isBlankLine line = true) :
    SavedRule.Skipped line := by
  obtain ⟨e, he⟩ := Json.readChars_of_isBlank h
  have hskipped := SavedRule.skipped_of_readChars_error he
  rwa [Text.ofList_toList] at hskipped

/-- The fault of a line that ends the reading. -/
def fault? (line : Text) : Option RuleError :=
  match SavedRule.decode line with
  | .ok _ => none
  | .error e => endsReading? e

/-- The warning for a line with its number, if it is skipped. -/
def warning? (line : Text) (number : Nat) : Option Text :=
  if isBlankLine line then none
  else
    match SavedRule.decode line with
    | .ok _ => none
    | .error e => some (skipWarning number e)

/-- The rules that lines give are those that can be decoded, as no blank line can. -/
theorem read?_eq_toOption (line : Text) : read? line = (SavedRule.decode line).toOption := by
  unfold read?
  split
  · next hblank =>
    obtain ⟨e, he, _⟩ := skipped_of_isBlankLine hblank
    rw [he]
    rfl
  · rfl

/-- A line ends the reading exactly if it is an object for whose rule a repetition number is too
large. -/
theorem fault?_eq_some_iff {line : Text} {e : RuleError} :
    fault? line = some e ↔
      SavedRule.decode line = .error (.rule e) ∧ e.error = .repetitionTooLarge := by
  unfold fault?
  cases SavedRule.decode line with
  | ok r => simp
  | error e' =>
    cases e' with
    | rule e' =>
      simp only [endsReading?, RuleError.isUncounted, decide_eq_true_eq]
      split
      · next hlarge =>
        constructor
        · rintro ⟨⟩
          exact ⟨rfl, hlarge⟩
        · rintro ⟨⟨⟩, _⟩
          rfl
      · next hlarge =>
        constructor
        · rintro ⟨⟩
        · rintro ⟨⟨⟩, hlarge'⟩
          exact absurd hlarge' hlarge
    | _ => simp [endsReading?]

/-- A line ends the reading only if a repetition number that is too large is written in one of its
patterns. -/
theorem hasLargeNumber_of_fault? {line : Text} {e : RuleError} (h : fault? line = some e) :
    Pattern.HasLargeNumber e.pattern.toList := by
  obtain ⟨hdecode, hlarge⟩ := fault?_eq_some_iff.1 h
  have hcompile := SavedRule.decode_pattern hdecode
  rw [hlarge] at hcompile
  exact Pattern.hasLargeNumber_of_compile hcompile

/-- The lines without a warning are the blank ones and those of rules. -/
theorem warning?_eq_none_iff {line : Text} {number : Nat} :
    warning? line number = none ↔
      isBlankLine line = true ∨ ∃ r, SavedRule.decode line = .ok r := by
  unfold warning?
  cases isBlankLine line with
  | true => simp
  | false =>
    cases SavedRule.decode line <;> simp

/-- A warning names the number of the line. -/
theorem skipWarning_eq (number : Nat) (e : SavedRule.DecodeError) :
    ∃ complaint : Text,
      skipWarning number e = "saved filter on line " ++ toString number ++ " " ++ complaint := by
  have hskipped : ∀ message : Text, ∃ complaint : Text,
      "saved filter on line " ++ toString number ++ " skipped: " ++ message
        = "saved filter on line " ++ toString number ++ " " ++ complaint := by
    intro message
    have hword : (" skipped: " : Text) = " " ++ "skipped: " := by decide
    refine ⟨"skipped: " ++ message, ?_⟩
    simp only [hword, Text.append_assoc]
  have hcorrupt : ∀ message : Text, ∃ complaint : Text,
      "saved filter on line " ++ toString number ++ " is corrupt, skipped: " ++ message
        = "saved filter on line " ++ toString number ++ " " ++ complaint := by
    intro message
    have hword : (" is corrupt, skipped: " : Text) = " " ++ "is corrupt, skipped: " := by decide
    refine ⟨"is corrupt, skipped: " ++ message, ?_⟩
    simp only [hword, Text.append_assoc]
  unfold skipWarning
  split
  · split
    · exact hskipped _
    · exact hcorrupt _
  · exact hcorrupt _

/-- The warning for a line names its number. -/
theorem warning?_eq_some {line w : Text} {number : Nat} (h : warning? line number = some w) :
    ∃ complaint : Text, w = "saved filter on line " ++ toString number ++ " " ++ complaint := by
  unfold warning? at h
  split at h
  · cases h
  · split at h
    · cases h
    · cases h
      exact skipWarning_eq number _

/-! ## §4 All lines -/

/-- What ends the reading at a line, if anything does. -/
def ending? (k : Stack) (line : Text) : Option Ending :=
  if isBlankLine line then none
  else if k.runsOut line then some .stack
  else (fault? line).map .rule

/-- Reading goes on to the first line that ends it. The lines before give their warnings, and if no
line ends the reading they all give their rules. -/
theorem decodeLines_eq (k : Stack) (number : Nat) (lines : List Text) :
    (decodeLines k number lines).warnings =
      ((lines.takeWhile fun line => (ending? k line).isNone).zipIdx number).filterMap
        (fun line => warning? line.1 line.2) ∧
    (decodeLines k number lines).result =
      match lines.findSome? (ending? k) with
      | some e => .error e
      | none => .ok (lines.filterMap read?) := by
  induction lines generalizing number with
  | nil => exact ⟨rfl, rfl⟩
  | cons line lines ih =>
    obtain ⟨hwarnings, hresult⟩ := ih (number + 1)
    rw [decodeLines, List.findSome?_cons, List.filterMap_cons]
    -- A line is blank, too deep for the stack, a rule, or a fault that may end the reading.
    by_cases hblank : isBlankLine line = true
    · have hends : ending? k line = none := if_pos hblank
      have hread : read? line = none := if_pos hblank
      rw [if_pos hblank, hwarnings, hresult, hends, hread]
      simp [hends, warning?, hblank]
    rw [if_neg hblank]
    by_cases hdeep : k.runsOut line = true
    · have hends : ending? k line = some .stack := by simp [ending?, hblank, hdeep]
      rw [if_pos hdeep, hends]
      simp [hends]
    have hends : ending? k line = (fault? line).map .rule := by simp [ending?, hblank, hdeep]
    rw [if_neg hdeep]
    cases hdecode : SavedRule.decode line with
    | ok rule =>
      have hnone : ending? k line = none := by simp [hends, fault?, hdecode]
      have hread : read? line = some rule := by
        rw [read?_eq_toOption, hdecode]
        rfl
      refine ⟨?_, ?_⟩
      · simp [hwarnings, hnone, warning?, hblank, hdecode]
      · rw [hnone, hread]
        dsimp only
        rw [hresult]
        cases lines.findSome? (ending? k) <;> rfl
    | error e =>
      have hread : read? line = none := by
        rw [read?_eq_toOption, hdecode]
        rfl
      have hfault : fault? line = endsReading? e := by simp [fault?, hdecode]
      rw [hfault] at hends
      rw [hread]
      cases hcase : endsReading? e with
      | some fault => simp [hends, hcase]
      | none => simp [hwarnings, hresult, hends, hcase, warning?, hblank, hdecode]

/-- Reading ends early exactly if some line ends it. -/
theorem decodeAllWithin_ok_iff (k : Stack) (text : Text) :
    (∃ rules, (decodeAllWithin k text).result = .ok rules) ↔
      ∀ line ∈ Text.lines text, ending? k line = none := by
  obtain ⟨_, hresult⟩ := decodeLines_eq k 1 (Text.lines text)
  rw [← List.findSome?_eq_none_iff]
  unfold decodeAllWithin
  rw [hresult]
  cases (Text.lines text).findSome? (ending? k) <;> simp

/-- The lines before the first one that ends the reading are read as if they were alone. -/
theorem decodeAllWithin_error {k : Stack} {text : Text} {e : Ending}
    (h : (decodeAllWithin k text).result = .error e) :
    ∃ before line after, Text.lines text = before ++ line :: after ∧
      (∀ l ∈ before, ending? k l = none) ∧ ending? k line = some e ∧
      (decodeAllWithin k text).warnings =
        (before.zipIdx 1).filterMap fun line => warning? line.1 line.2 := by
  obtain ⟨hwarnings, hresult⟩ := decodeLines_eq k 1 (Text.lines text)
  have hfirst : (Text.lines text).findSome? (ending? k) = some e := by
    unfold decodeAllWithin at h
    rw [hresult] at h
    cases hfind : (Text.lines text).findSome? (ending? k) with
    | none =>
      rw [hfind] at h
      cases h
    | some e' =>
      rw [hfind] at h
      cases h
      rfl
  obtain ⟨before, line, after, hlines, hline, hbefore⟩ := List.findSome?_eq_some_iff.1 hfirst
  refine ⟨before, line, after, hlines, hbefore, hline, ?_⟩
  -- The lines up to the first that ends the reading are those that are read.
  have htake : (Text.lines text).takeWhile (fun l => (ending? k l).isNone) = before := by
    rw [hlines, List.takeWhile_append_of_pos (by simpa using hbefore), List.takeWhile_cons]
    simp [hline]
  rw [decodeAllWithin, hwarnings, htake]

/-- A text that is read to its end gives its rules and its warnings line by line. -/
theorem decodeAllWithin_ok {k : Stack} {text : Text} {rules : List Rule}
    (h : (decodeAllWithin k text).result = .ok rules) :
    rules = (Text.lines text).filterMap (fun line => (SavedRule.decode line).toOption) ∧
      (decodeAllWithin k text).warnings =
        ((Text.lines text).zipIdx 1).filterMap fun line => warning? line.1 line.2 := by
  have hnone := (decodeAllWithin_ok_iff k text).1 ⟨rules, h⟩
  obtain ⟨hwarnings, hresult⟩ := decodeLines_eq k 1 (Text.lines text)
  unfold decodeAllWithin at h ⊢
  rw [hresult, List.findSome?_eq_none_iff.2 hnone] at h
  cases h
  refine ⟨?_, ?_⟩
  · rw [funext read?_eq_toOption]
  · rw [hwarnings, List.takeWhile_eq_self_iff.2 (by simpa using hnone)]

/-- A panel starts with a text exactly if all of the text is read. -/
theorem ofTextWithin_ok_iff (k : Stack) (store : Store) (storage : Storage) (disk : Disk)
    (warnings : List Text) (text : Text) :
    (∃ p, (Panel.ofTextWithin k store storage disk warnings text).result = .ok p) ↔
      ∃ rules, (decodeAllWithin k text).result = .ok rules := by
  unfold Panel.ofTextWithin
  dsimp only
  cases hresult : (decodeAllWithin k text).result with
  | error e => simp
  | ok rules => simp

/-- What ends the reading at a line that is not blank: the stack runs out, or it does not and a
repetition number of a pattern is too large. -/
theorem ending?_eq_some_iff {k : Stack} {line : Text} {e : Ending} :
    ending? k line = some e ↔ isBlankLine line = false ∧
      (k.runsOut line = true ∧ e = .stack ∨ k.runsOut line = false ∧
        ∃ fault, e = .rule fault ∧ SavedRule.decode line = .error (.rule fault) ∧
          fault.error = .repetitionTooLarge) := by
  unfold ending?
  cases isBlankLine line with
  | true => simp
  | false =>
    cases k.runsOut line with
    | true => simp [eq_comm]
    | false =>
      simp only [Bool.false_eq_true, if_false, Option.map_eq_some_iff, fault?_eq_some_iff]
      constructor
      · rintro ⟨fault, hfault, rfl⟩
        exact ⟨trivial, .inr ⟨trivial, fault, rfl, hfault⟩⟩
      · rintro ⟨-, ⟨⟨⟩, -⟩ | ⟨-, fault, rfl, hfault⟩⟩
        exact ⟨fault, hfault, rfl⟩

/-- Every bad line that does not end the reading costs only itself, wherever the stack runs out.
Where it does not and no repetition number of a pattern is too large to be counted, all rules of a
text are read, every other line that is not blank gives one warning with its number, and a panel
starts with the text. Otherwise the first line at which the stack runs out or which has such a
number ends the reading: no rule is given, and no panel starts. -/
theorem decodeAll_skips (k : Stack) (text : Text) :
    ((∃ rules, (decodeAllWithin k text).result = .ok rules) ↔
      ∀ line ∈ Text.lines text, ending? k line = none) ∧
    (∀ rules, (decodeAllWithin k text).result = .ok rules →
      rules = (Text.lines text).filterMap (fun line => (SavedRule.decode line).toOption) ∧
      (decodeAllWithin k text).warnings =
        ((Text.lines text).zipIdx 1).filterMap fun line => warning? line.1 line.2) ∧
    (∀ e, (decodeAllWithin k text).result = .error e → ∃ before line after,
      Text.lines text = before ++ line :: after ∧ (∀ l ∈ before, ending? k l = none) ∧
      ending? k line = some e ∧
      (decodeAllWithin k text).warnings =
        (before.zipIdx 1).filterMap fun line => warning? line.1 line.2) ∧
    (∀ line number, warning? line number = none ↔
      isBlankLine line = true ∨ ∃ r, SavedRule.decode line = .ok r) ∧
    (∀ line number w, warning? line number = some w →
      ∃ complaint : Text, w = "saved filter on line " ++ toString number ++ " " ++ complaint) ∧
    (∀ line e, ending? k line = some e ↔ isBlankLine line = false ∧
      (k.runsOut line = true ∧ e = .stack ∨ k.runsOut line = false ∧
        ∃ fault, e = .rule fault ∧ SavedRule.decode line = .error (.rule fault) ∧
          fault.error = .repetitionTooLarge)) ∧
    (∀ line fault, ending? k line = some (.rule fault) →
      Pattern.HasLargeNumber fault.pattern.toList) ∧
    ∀ store storage disk warnings,
      (∃ p, (Panel.ofTextWithin k store storage disk warnings text).result = .ok p) ↔
        ∀ line ∈ Text.lines text, ending? k line = none := by
  refine ⟨decodeAllWithin_ok_iff k text, fun _ => decodeAllWithin_ok,
    fun _ => decodeAllWithin_error, fun _ _ => warning?_eq_none_iff,
    fun _ _ _ => warning?_eq_some, fun _ _ => ending?_eq_some_iff, ?_, ?_⟩
  · intro line fault hending
    obtain ⟨-, ⟨-, ⟨⟩⟩ | ⟨-, _, ⟨⟩, hdecode, hlarge⟩⟩ := ending?_eq_some_iff.1 hending
    exact hasLargeNumber_of_fault? (fault?_eq_some_iff.2 ⟨hdecode, hlarge⟩)
  · intro store storage disk warnings
    rw [ofTextWithin_ok_iff, decodeAllWithin_ok_iff]

/-- A repetition number that is too large on the first line keeps the rule of the second one from
being read. -/
theorem decodeAll_largeNumber :
    ∃ large ok : Text, large = "\x7b\"name\": \"x\", \"text\": \"a\x7b4294967296\x7d\"\x7d" ∧
      ok = "\x7b\"name\": \"ok\"\x7d" ∧ (SavedRule.decode ok).toOption.isSome = true ∧
      ¬ ∃ rules, (decodeAll (large ++ "\n" ++ ok)).result = .ok rules := by
  refine ⟨_, _, rfl, rfl, by decide +kernel, ?_⟩
  unfold decodeAll
  rw [decodeAllWithin_ok_iff]
  intro h
  have hlines : ("\x7b\"name\": \"x\", \"text\": \"a\x7b4294967296\x7d\"\x7d" : Text) ∈
      Text.lines ("\x7b\"name\": \"x\", \"text\": \"a\x7b4294967296\x7d\"\x7d" ++ "\n" ++
        "\x7b\"name\": \"ok\"\x7d") := by decide +kernel
  have hends : ending? .endless "\x7b\"name\": \"x\", \"text\": \"a\x7b4294967296\x7d\"\x7d"
      = some (.rule ⟨.text, "a\x7b4294967296\x7d", .repetitionTooLarge⟩) := by decide +kernel
  rw [h _ hlines] at hends
  cases hends

end SavedRules

end LogViewer
