import LogViewer.Proofs.Json.Fragment
import LogViewer.SavedRules

/-!
# Reading saved rules back

The saved text of a rule set is read back rule by rule. A line of the text is cut apart where a
string of its rule holds a line boundary beyond ASCII, as those are written as they are. A line that
stays whole gives its rule again; a line that is cut apart gives nothing, and none of its pieces
stops the reading.

## Main statements

- `SavedRule.decode_encode`: the line of a rule gives the rule again
- `SavedRule.skipped_of_mem_pieces`: the pieces of a line that is cut apart give nothing
- `SavedRules.importRules_exportRules`: what comes back from the saved text of a rule set
- `SavedRules.importRules_exportRules_iff`: when all of it comes back
-/

namespace LogViewer

/-! ## §1 A line that stays whole -/

/-- A level is read back from its letter. -/
theorem Level.parse_letterText (l : Level) : Level.parse l.letterText = .ok l := by
  cases l <;> rfl

/-- A rule as it comes back: kept for later sessions, and with nothing unread. -/
def Rule.reloaded (r : Rule) : Rule := { r with transient := false, unread := 0 }

/-- The criteria of a rule can be built again. -/
theorem Rule.build_criteria (r : Rule) (transient : Bool) :
    Rule.build r.criteria transient = .ok { r with transient, unread := 0 } := by
  unfold Rule.build
  split
  · next patterns h =>
    -- The patterns of a rule are what its criteria compile to.
    have hsame : patterns = r.patterns := Except.ok.inj (h.symm.trans r.compiled)
    subst hsame
    rfl
  · next e h =>
    rw [r.compiled] at h
    cases h

namespace SavedRule

/-- The keys and strings of a line, in order. -/
def members (c : Criteria) : List (Text × Text) :=
  [("name", c.name), ("tag", c.tag), ("text", c.text), ("pid", c.pid), ("app", c.app),
    ("level", c.level.letterText)]

/-- A line is a written object. -/
theorem encodeChars_eq (c : Criteria) : encodeChars c = Json.writeObject (members c) := rfl

/-- The level of an object is that of its letter. -/
theorem levelField_of_letter {ms : Json.Members} {letter : Text} {l : Level}
    (hletter : Json.Value.get? ms "level" = some (.str letter)) (hlevel : Level.parse letter = .ok l) :
    levelField ms = .ok l := by
  have hfield : field ms "level" Level.verbose.letterText = .ok letter := by
    unfold field
    rw [hletter]
  unfold levelField
  rw [hfield]
  change (Level.parse letter).mapError _ = _
  rw [hlevel]
  rfl

/-- The criteria of a line's object are those of the line. -/
theorem criteriaOf_members (c : Criteria) :
    criteriaOf ((members c).foldl Json.putString []) = .ok c := by
  have hlevel : levelField ((members c).foldl Json.putString []) = .ok c.level :=
    levelField_of_letter (by simp [members, Json.putString, Json.Value.put, Json.Value.get?])
      c.level.parse_letterText
  unfold criteriaOf
  rw [hlevel]
  simp [members, Json.putString, Json.Value.put, Json.Value.get?, field, pidField, bind,
    Except.bind, pure, Except.pure]

/-- A line whose object has criteria gives the rule that they build. -/
theorem decode_of_criteria {line : Text} {ms : Json.Members} {c : Criteria}
    (hread : Json.read line = .ok (.obj ms)) (hcriteria : criteriaOf ms = .ok c) :
    decode line = (Rule.build c false).mapError .rule := by
  unfold decode
  rw [hread]
  change criteriaOf ms >>= _ = _
  rw [hcriteria]
  rfl

/-- A line is an object with its members. -/
theorem read_encode (c : Criteria) :
    Json.read (encode c) = .ok (.obj ((members c).foldl Json.putString [])) :=
  Json.read_writeObject (members c) (by simp [members])

/-- The line of a rule gives the rule again. -/
theorem decode_encode (r : Rule) : decode (encode r.criteria) = .ok r.reloaded := by
  rw [decode_of_criteria (read_encode r.criteria) (criteriaOf_members r.criteria),
    Rule.build_criteria]
  rfl

/-! ## §2 A line that is cut apart -/

/-- None of the strings holds a line boundary that is written as it is. -/
def isWhole (c : Criteria) : Bool :=
  [c.name, c.tag, c.text, c.pid, c.app].all fun s => !s.toList.any Json.isRawBreak

/-- The pieces that a reader of lines finds in a line. -/
def pieces (c : Criteria) : List (List CodePoint) :=
  (encodeChars c).splitOnP Text.isLineBreak

/-- A line that gives no rule and does not stop the reading. -/
def Skipped (line : Text) : Prop :=
  ∃ e, decode line = .error e ∧ SavedRules.endsReading? e = none

/-- The keys of a line are plain. -/
theorem isPlainKey_of_mem (c : Criteria) : ∀ m ∈ members c, Json.IsPlainKey m.1 := by
  have hkeys : ∀ key ∈ (["name", "tag", "text", "pid", "app", "level"] : List Text),
      key.toList ≠ [] ∧ key.toList.all CodePoint.isAlpha = true := by
    decide
  intro m hm
  have hkey : m.1 ∈ (["name", "tag", "text", "pid", "app", "level"] : List Text) := by
    simp only [members, List.mem_cons, List.not_mem_nil, or_false] at hm ⊢
    rcases hm with rfl | rfl | rfl | rfl | rfl | rfl <;> simp
  exact ⟨(hkeys m.1 hkey).1, List.all_eq_true.1 (hkeys m.1 hkey).2⟩

/-- The letter of a level holds no line boundary. -/
theorem level_whole (c : Criteria) :
    ∀ m ∈ (members c).getLast?, m.2.toList.any Json.isRawBreak = false := by
  intro m hm
  have heq : m = (("level" : Text), c.level.letterText) := by
    simpa [members] using hm.symm
  rw [heq]
  cases c.level <;> rfl

/-- A line is cut apart exactly if one of its strings holds a raw boundary. -/
theorem exists_broken_iff (c : Criteria) :
    (∃ m ∈ members c, m.2.toList.any Json.isRawBreak = true) ↔ isWhole c = false := by
  have hlevel : c.level.letterText.toList.any Json.isRawBreak = false := by
    cases c.level <;> rfl
  simp only [members, isWhole, List.mem_cons, List.not_mem_nil, or_false, exists_eq_or_imp,
    exists_eq_left, hlevel, List.all_cons, List.all_nil, Bool.and_true, Bool.and_eq_false_iff,
    Bool.not_eq_false']
  simp

/-- A line whose strings hold no raw boundary is one piece. -/
theorem pieces_of_isWhole {c : Criteria} (h : isWhole c = true) : pieces c = [encodeChars c] := by
  apply List.splitOnP_eq_singleton
  intro x hx
  cases hb : Text.isLineBreak x with
  | false => rfl
  | true =>
    have hbroken := (Json.isRawBreak_of_mem_writeObject (isPlainKey_of_mem c) hx hb).2
    rw [exists_broken_iff, h] at hbroken
    cases hbroken

/-- A text that is refused gives no rule and does not stop the reading. -/
theorem skipped_of_readChars_error {s : List CodePoint} {e : Json.Fault}
    (h : Json.readChars s = .error e) : Skipped (Text.ofList s) := by
  refine ⟨.json (e.locate s), ?_, rfl⟩
  unfold decode Json.read
  rw [Text.toList_ofList, h]
  rfl

/-- A value that is no object gives no rule. -/
theorem decode_of_ne_obj {line : Text} {v : Json.Value} (h : Json.read line = .ok v)
    (hobj : ∀ members, v ≠ .obj members) : decode line = .error (.notAnObject v.kindName) := by
  unfold decode
  rw [h]
  cases v with
  | obj members => exact absurd rfl (hobj members)
  | _ => rfl

/-- A text that is no object with members gives no rule and does not stop the reading. -/
theorem skipped_of_readChars_ne_obj {s : List CodePoint}
    (h : ∀ m members, Json.readChars s ≠ .ok (.obj (m :: members))) :
    Skipped (Text.ofList s) := by
  cases hchars : Json.readChars s with
  | error e => exact skipped_of_readChars_error hchars
  | ok v =>
    have hread : Json.read (Text.ofList s) = .ok v := by
      unfold Json.read
      rw [Text.toList_ofList, hchars]
      rfl
    by_cases hobj : ∃ members, v = .obj members
    · obtain ⟨members, rfl⟩ := hobj
      cases members with
      | nil =>
        -- An object without members has no name.
        refine ⟨.missing "name", ?_, rfl⟩
        unfold decode
        rw [hread]
        rfl
      | cons m members => exact absurd hchars (h m members)
    · exact ⟨_, decode_of_ne_obj hread fun members hv => hobj ⟨members, hv⟩, rfl⟩

/-- No piece of a line that is cut apart gives a rule. -/
theorem skipped_of_mem_pieces {c : Criteria} (h : isWhole c = false) :
    ∀ piece ∈ pieces c, Skipped (Text.ofList piece) := by
  intro piece hpiece
  rw [pieces, Text.splitOnP_eq_takeWhile_cons] at hpiece
  -- The first piece ends inside a string, and a later one begins inside a string.
  rcases List.mem_cons.1 hpiece with rfl | hpiece
  · obtain ⟨e, he⟩ := Json.readChars_first (isPlainKey_of_mem c) ((exists_broken_iff c).2 h)
    exact skipped_of_readChars_error he
  · apply skipped_of_readChars_ne_obj
    exact (Json.later_of_mem_tail (isPlainKey_of_mem c) (level_whole c) hpiece).readChars_ne_obj

end SavedRule

namespace SavedRules

open SavedRule (encodeChars pieces isWhole)

/-! ## §3 The lines of a saved text -/

/-- The characters of a saved text are the lines of the rules between line feeds. -/
theorem toList_encodeAll (rules : List Rule) :
    (encodeAll rules).toList
      = [('\n' : CodePoint)].intercalate (rules.map fun r => encodeChars r.criteria) := by
  have hsep : (Text.toList "\n") = [('\n' : CodePoint)] := by decide
  have hline : Text.toList ∘ (fun r : Rule => SavedRule.encode r.criteria)
      = fun r => encodeChars r.criteria := by
    funext r
    exact Text.toList_ofList _
  rw [encodeAll, Text.toList_intercalate, List.map_map, hsep, hline]

/-- A saved text holds no carriage return, which is escaped in a string. -/
theorem not_mem_encodeAll (rules : List Rule) : ('\r' : CodePoint) ∉ (encodeAll rules).toList := by
  rw [toList_encodeAll]
  intro hmem
  rcases Text.eq_or_mem_of_mem_intercalate hmem with heq | ⟨line, hline, hmem⟩
  · cases heq
  · obtain ⟨r, _, rfl⟩ := List.mem_map.1 hline
    have hraw := Json.isRawBreak_of_mem_writeObject
      (SavedRule.isPlainKey_of_mem r.criteria) hmem (by decide)
    cases hraw.1

/-- The lines of a saved text are the pieces of the lines of its rules. -/
theorem lines_encodeAll (rules : List Rule) :
    Text.lines (encodeAll rules)
      = rules.flatMap fun r => (pieces r.criteria).map Text.ofList := by
  unfold Text.lines
  rw [toList_encodeAll]
  by_cases hnil : rules = []
  · subst hnil
    rfl
  have hne : (rules.map fun r => encodeChars r.criteria) ≠ [] := by simpa using hnil
  -- The text ends with the brace of the last line, which is no boundary.
  obtain ⟨init, hinit⟩ :
    ∃ init, [('\n' : CodePoint)].intercalate (rules.map fun r => encodeChars r.criteria)
      = init ++ [('\x7d' : CodePoint)] := by
    apply Text.exists_concat_intercalate hne
    intro line hline
    obtain ⟨r, _, rfl⟩ := List.mem_map.1 hline
    exact ⟨_, rfl⟩
  -- Every boundary is one character.
  have hcr := not_mem_encodeAll rules
  rw [toList_encodeAll, hinit] at hcr
  have hcut := Text.linesFrom_eq_splitOnP init (by decide) hcr []
  rw [← hinit] at hcut
  rw [hcut, List.splitOnPPrepend_nil_right, Text.splitOnP_intercalate (by decide) hne]
  rw [List.flatMap_map, List.map_flatMap]
  rfl

/-! ## §4 Reading line by line -/

/-- The rule that a line gives, if any. -/
def read? (line : Text) : Option Rule :=
  if isBlankLine line then none else (SavedRule.decode line).toOption

/-- If no line stops the reading, all rules of the lines are read. -/
theorem decodeLines_result (number : Nat) (lines : List Text)
    (h : ∀ line ∈ lines, ∀ e, SavedRule.decode line = .error e → endsReading? e = none) :
    (decodeLines .endless number lines).result = .ok (lines.filterMap read?) := by
  induction lines generalizing number with
  | nil => rfl
  | cons line lines ih =>
    have hrest := ih (number + 1) fun line hline => h line (List.mem_cons_of_mem _ hline)
    rw [decodeLines, List.filterMap_cons]
    by_cases hblank : isBlankLine line = true
    · have hnone : read? line = none := by simp [read?, hblank]
      rw [if_pos hblank, hnone, hrest]
    · rw [if_neg hblank, if_neg (by simp)]
      cases hdecode : SavedRule.decode line with
      | ok rule =>
        have hsome : read? line = some rule := by simp [read?, hblank, hdecode, Except.toOption]
        rw [hsome]
        simp [hrest, Except.map]
      | error e =>
        have hnone : read? line = none := by simp [read?, hblank, hdecode, Except.toOption]
        have hgoes := h line (List.mem_cons_self ..) e hdecode
        rw [hnone]
        simp [hgoes, hrest]

/-- A line that is skipped gives no rule. -/
theorem read?_of_skipped {line : Text} (h : SavedRule.Skipped line) : read? line = none := by
  obtain ⟨e, he, _⟩ := h
  simp [read?, he, Except.toOption]

/-- The line of a rule is not blank, as it begins with a brace. -/
theorem isBlankLine_encode (c : Criteria) : isBlankLine (SavedRule.encode c) = false := by
  unfold isBlankLine SavedRule.encode
  rw [Text.toList_ofList, SavedRule.encodeChars_eq, Json.writeObject]
  rfl

/-- The line of a rule gives the rule. -/
theorem read?_encode (r : Rule) : read? (SavedRule.encode r.criteria) = some r.reloaded := by
  simp [read?, isBlankLine_encode, SavedRule.decode_encode, Except.toOption]

/-- The pieces of a rule's line give the rule if the line is whole, and nothing otherwise. -/
theorem filterMap_read?_pieces (r : Rule) :
    ((pieces r.criteria).map Text.ofList).filterMap read?
      = if isWhole r.criteria then [r.reloaded] else [] := by
  by_cases hwhole : isWhole r.criteria = true
  · rw [SavedRule.pieces_of_isWhole hwhole, if_pos hwhole]
    have hread : read? (Text.ofList (encodeChars r.criteria)) = some r.reloaded := read?_encode r
    rw [List.map_singleton, List.filterMap_cons, hread, List.filterMap_nil]
  · rw [if_neg hwhole, List.filterMap_eq_nil_iff]
    intro line hline
    obtain ⟨piece, hpiece, rfl⟩ := List.mem_map.1 hline
    exact read?_of_skipped (SavedRule.skipped_of_mem_pieces (by simpa using hwhole) piece hpiece)

/-- No line of a saved text stops the reading. -/
theorem endsReading?_of_mem_pieces (r : Rule) :
    ∀ line ∈ (pieces r.criteria).map Text.ofList, ∀ e,
      SavedRule.decode line = .error e → endsReading? e = none := by
  intro line hline e he
  obtain ⟨piece, hpiece, rfl⟩ := List.mem_map.1 hline
  by_cases hwhole : isWhole r.criteria = true
  · rw [SavedRule.pieces_of_isWhole hwhole, List.mem_singleton] at hpiece
    subst hpiece
    have hok : SavedRule.decode (Text.ofList (encodeChars r.criteria)) = .ok r.reloaded :=
      SavedRule.decode_encode r
    rw [hok] at he
    cases he
  · obtain ⟨e', he', hgoes⟩ :=
      SavedRule.skipped_of_mem_pieces (by simpa using hwhole) piece hpiece
    rw [he'] at he
    cases he
    exact hgoes

/-- Of the rules of a saved text, those whose lines are whole are read. -/
theorem decodeAll_encodeAll (rules : List Rule) :
    (decodeAll (encodeAll rules)).result
      = .ok ((rules.filter fun r => isWhole r.criteria).map Rule.reloaded) := by
  unfold decodeAll decodeAllWithin
  rw [lines_encodeAll, decodeLines_result]
  · congr 1
    induction rules with
    | nil => rfl
    | cons r rules ih =>
      rw [List.flatMap_cons, List.filterMap_append, filterMap_read?_pieces, ih, List.filter_cons]
      split <;> rfl
  · intro line hline
    obtain ⟨r, _, hpiece⟩ := List.mem_flatMap.1 hline
    exact endsReading?_of_mem_pieces r line hpiece

/-! ## §5 Saved rule sets -/

/-- What comes back from the saved text of a rule set. -/
theorem importRules_exportRules (s : RuleSet) :
    (importRules (exportRules s)).result
      = .ok (.ofRules ((s.persistent.filter fun r => isWhole r.criteria).map Rule.reloaded)) := by
  have hread := decodeAll_encodeAll s.persistent
  unfold importRules exportRules
  simp only [hread, Except.map]

/-- Rules that have come back are all saved again. -/
theorem persistent_ofRules_reloaded (rules : List Rule) :
    (RuleSet.ofRules (rules.map Rule.reloaded)).persistent = rules.map Rule.reloaded := by
  unfold RuleSet.persistent RuleSet.ofRules
  rw [List.drop_one, List.tail_cons, List.filter_eq_self]
  intro r hr
  obtain ⟨r', _, rfl⟩ := List.mem_map.1 hr
  rfl

/-- The saved text of a rule set can always be read back. The rules that come back are those whose
strings hold no raw line boundary, in their order and with the same criteria, so all of them come
back exactly if no string of a saved rule holds one. -/
theorem importRules_exportRules_iff (rules : List Rule) :
    ∃ again, (importRules (exportRules (.ofRules rules))).result = .ok again ∧
      again.persistent.map (·.criteria)
        = ((RuleSet.ofRules rules).persistent.map (·.criteria)).filter isWhole ∧
      (again.persistent.map (·.criteria) = (RuleSet.ofRules rules).persistent.map (·.criteria) ↔
        ∀ r ∈ (RuleSet.ofRules rules).persistent, isWhole r.criteria = true) := by
  have hback : (RuleSet.ofRules (((RuleSet.ofRules rules).persistent.filter
      fun r => isWhole r.criteria).map Rule.reloaded)).persistent.map (·.criteria)
      = ((RuleSet.ofRules rules).persistent.map (·.criteria)).filter isWhole := by
    rw [persistent_ofRules_reloaded, List.map_map, List.filter_map]
    rfl
  refine ⟨_, importRules_exportRules _, hback, ?_⟩
  rw [hback, List.filter_eq_self]
  simp

/-- A rule whose name holds a line separator is lost. -/
theorem importRules_exportRules_lineSeparator :
    ∃ r : Rule, Rule.build (.named "a\u2028b") false = .ok r ∧
      ¬ ∃ again, (importRules (exportRules (.ofRules [r]))).result = .ok again ∧
        again.persistent.map (·.criteria) = (RuleSet.ofRules [r]).persistent.map (·.criteria) := by
  obtain ⟨r, hr⟩ : ∃ r : Rule, Rule.build (.named "a\u2028b") false = .ok r := ⟨_, rfl⟩
  refine ⟨r, hr, ?_⟩
  rintro ⟨again, hagain, hsame⟩
  have hc : r.criteria = .named "a\u2028b" := by cases hr; rfl
  have hkept : (RuleSet.ofRules [r]).persistent = [r] := by cases hr; rfl
  have hbroken : isWhole r.criteria = false := by rw [hc]; decide
  rw [importRules_exportRules, hkept, List.filter_cons, hbroken] at hagain
  cases hagain
  rw [hkept] at hsame
  cases hsame

end SavedRules

end LogViewer
