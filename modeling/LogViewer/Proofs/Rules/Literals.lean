import LogViewer.Proofs.Pattern.Searching
import LogViewer.Proofs.Rules.Changes

/-!
# Rules that search for literal text

A rule that asks of one field only tests whether its pattern occurs there. If the pattern is ASCII
text without operators and points, this is a search for the pattern as it stands: character by
character if the pattern has an upper case letter, and up to the case of ASCII letters otherwise.

## Main definitions

- `Criteria.asking`, `Message.field`: a pattern for one field, and the text of that field
- `IsAscii`, `Pattern.IsLiteral`: ASCII text, and characters that stand for themselves

## Main statements

- `Rule.exists_build_asking`, `Rule.matches_asking`: a rule that asks of one field
- `Pattern.passes_map_iff`: what literal characters hold of
- `Rule.matches_literal_iff`: a rule with a literal pattern
-/

namespace LogViewer

/-! ## §1 Rules that ask of one field -/

/-- The criteria that ask of one field only. -/
def Criteria.asking (name : Text) (field : PatternField) (pattern : Text) : Criteria :=
  match field with
  | .tag => { Criteria.named name with tag := pattern }
  | .text => { Criteria.named name with text := pattern }
  | .app => { Criteria.named name with app := pattern }

/-- The text that the pattern of a field is searched for in. -/
def Message.field (m : Message) : PatternField → Text
  | .tag => m.tag
  | .text => m.text
  | .app => m.app

/-- The compiled patterns of one field. -/
def Patterns.only (field : PatternField) (p : Option Pattern) : Patterns :=
  match field with
  | .tag => ⟨p, none, none⟩
  | .text => ⟨none, p, none⟩
  | .app => ⟨none, none, p⟩

theorem compile_asking (name : Text) (field : PatternField) (pattern : Text) :
    (Criteria.asking name field pattern).compile = (compileField field pattern).map (.only field) := by
  cases field with
  | tag =>
    simp only [Criteria.asking, Criteria.compile]
    cases compileField .tag pattern <;> rfl
  | text =>
    simp only [Criteria.asking, Criteria.compile]
    cases compileField .text pattern <;> rfl
  | app =>
    simp only [Criteria.asking, Criteria.compile]
    cases compileField .app pattern <;> rfl

theorem compileField_of_compile {field : PatternField} {pattern : Text} {p : Pattern}
    (hne : pattern ≠ "") (h : Pattern.compile pattern = .ok p) :
    compileField field pattern = .ok (some p) := by
  have hempty : pattern.isEmpty = false := Text.isEmpty_eq_false_iff.2 hne
  simp [compileField, hempty, h]

namespace Rule

/-- A rule that asks of one field passes the messages in whose field its pattern occurs. -/
theorem matches_asking {r : Rule} {name pattern : Text} {field : PatternField} {p : Pattern}
    (hcriteria : r.criteria = .asking name field pattern) (hne : pattern ≠ "")
    (h : Pattern.compile pattern = .ok p) (m : Message) : r.matches m = p.occursIn (m.field field) := by
  have hpatterns : r.patterns = .only field (some p) := by
    have hcompiled := r.compiled
    rw [hcriteria, compile_asking, compileField_of_compile hne h] at hcompiled
    exact (Except.ok.inj hcompiled).symm
  have hlevel : r.criteria.level = .verbose := by
    rw [hcriteria]
    cases field <;> rfl
  have hpid : r.criteria.pid = "" := by
    rw [hcriteria]
    cases field <;> rfl
  simp only [«matches», hlevel, hpid, hpatterns, Level.verbose_le, pidMatches_empty]
  cases field <;> simp [Patterns.only, occurs, Message.field]

/-- A rule that asks of one field is built if its pattern is accepted. -/
theorem exists_build_asking (name : Text) (field : PatternField) {pattern : Text} {p : Pattern}
    (hne : pattern ≠ "") (h : Pattern.compile pattern = .ok p) (transient : Bool) :
    ∃ r, Rule.build (.asking name field pattern) transient = .ok r := by
  have hcompile : (Criteria.asking name field pattern).compile = .ok (.only field (some p)) := by
    rw [compile_asking, compileField_of_compile hne h]
    rfl
  exact Rule.exists_build_iff.2 ⟨_, hcompile⟩

end Rule

/-! ## §2 ASCII text -/

/-- A text of ASCII characters. -/
def IsAscii (s : Text) : Prop := ∀ c ∈ s.toList, c.toNat < 128

instance (s : Text) : Decidable (IsAscii s) :=
  List.decidableBAll (fun c : CodePoint => c.toNat < 128) s.toList

namespace Text

theorem isUpper_of_lt {c : CodePoint} (h : c.toNat < 128) : isUpper c.toNat = c.isUpper := by
  cases c with
  | char c =>
    show isUpper c.toNat = decide (c.val ≥ 65 ∧ c.val ≤ 90)
    simp [isUpper, show c.toNat < 128 from h, UInt32.le_iff_toNat_le, Char.toNat_val]
  | surrogate n =>
    have hcode : CodePoint.firstSurrogate + (n : Nat) < 128 := h
    simp only [CodePoint.firstSurrogate] at hcode
    omega

/-- Lower case of numbers is that of characters. -/
theorem asciiLower_toNat_char (c : Char) : asciiLower c.toNat = c.toLower.toNat := by
  have hstep : ('a'.val - 'A'.val).toNat = 32 := by decide
  have hupper : (65 ≤ c.toNat ∧ c.toNat ≤ 90) ↔ (c.val ≥ 'A'.val ∧ c.val ≤ 'Z'.val) := by
    rw [ge_iff_le, UInt32.le_iff_toNat_le, UInt32.le_iff_toNat_le, Char.toNat_val]
    rfl
  unfold asciiLower Char.toLower
  simp only [hupper]
  split
  · next h =>
    have hle : c.toNat ≤ 90 := (hupper.2 h).2
    rw [← Char.toNat_val, ← Char.toNat_val, UInt32.toNat_add, hstep, Char.toNat_val]
    omega
  · rfl

/-- Lower case of numbers is that of code points. -/
theorem asciiLower_toNat (c : CodePoint) : asciiLower c.toNat = c.toLower.toNat := by
  cases c with
  | char c => exact asciiLower_toNat_char c
  | surrogate n =>
    show asciiLower (CodePoint.firstSurrogate + n) = CodePoint.firstSurrogate + n
    rw [asciiLower, if_neg (by simp only [CodePoint.firstSurrogate]; omega)]

/-- Lower case tells characters apart in the same way whether it is taken of their code points. -/
theorem asciiLower_eq_iff {c d : CodePoint} :
    asciiLower c.toNat = asciiLower d.toNat ↔ c.toLower = d.toLower := by
  rw [asciiLower_toNat, asciiLower_toNat, CodePoint.toNat_inj]

/-- No two ASCII letters share their upper case. -/
theorem eq_of_mem_upperClasses : ∀ mates ∈ upperClasses, ∀ a ∈ mates, ∀ b ∈ mates,
    a < 128 → b < 128 → a = b := by
  decide

theorem le_of_mem_upperMates {n m : Nat} (hn : n < 128) (h : m ∈ upperMates n) : 128 ≤ m := by
  unfold upperMates at h
  split at h
  · next mates hfind =>
    obtain ⟨hm, hne⟩ := List.mem_filter.1 h
    have hmem := List.mem_of_find?_eq_some hfind
    have hcontains : n ∈ mates := by simpa using List.find?_some hfind
    by_contra hlt
    have heq : m = n := eq_of_mem_upperClasses mates hmem m hm n hcontains (by omega) hn
    simp [heq] at hne
  · cases h

end Text

/-! ## §3 Literal patterns -/

namespace Pattern

open Text

/-- A character that stands for itself. -/
def IsLiteral (c : CodePoint) : Prop := IsOrdinary c ∧ c ≠ '.'

instance (c : CodePoint) : Decidable (IsLiteral c) := inferInstanceAs (Decidable (_ ∧ _))

namespace Fold

variable (fold : Fold) {n d : Nat}

theorem lower_of_lt (h : n < 128) : fold.lower n = asciiLower n := by
  cases fold with
  | ascii => rfl
  | unicode => simp [lower, lowerCode, h]

theorem asciiLower_lt (h : n < 128) : asciiLower n < 128 := by
  unfold asciiLower
  split <;> omega

/-- Within ASCII a folded letter has no mates besides itself. -/
theorem mem_mates_iff (hn : n < 128) (hd : d < 128) : d ∈ fold.mates n ↔ d = n := by
  cases fold with
  | ascii => simp [mates]
  | unicode =>
    simp only [mates, List.mem_cons, or_iff_left_iff_imp]
    intro h
    -- The letters that share an upper case with an ASCII letter are beyond ASCII.
    have hle := le_of_mem_upperMates hn h
    omega

/-- Only letters have a case within ASCII. -/
theorem cased_of_lt (h : n < 128) : fold.cased n = isAsciiCased n := by
  cases fold with
  | ascii => rfl
  | unicode =>
    simp only [cased, isCased, lowerCode, upperCode, h, if_true, asciiLower, isAsciiCased]
    grind

end Fold

/-- Within ASCII the test for a character compares code points, in lower case if case is ignored. -/
theorem holds_literalTest_iff (flags : Flags) {n d : Nat} (hn : n < 128) (hd : d < 128) :
    (literalTest flags false n).holds d = true
      ↔ if flags.ignoreCase then asciiLower n = asciiLower d else n = d := by
  unfold literalTest Flags.fold?
  cases flags.ignoreCase with
  | false => simp [CharTest.holds, eq_comm (a := d)]
  | true =>
    simp only [if_true]
    generalize (if flags.ascii then Fold.ascii else Fold.unicode) = fold
    rw [Fold.cased_of_lt fold hn]
    split
    · simp [CharTest.holds, Fold.lower_of_lt, hn, hd, Fold.asciiLower_lt, Fold.mem_mates_iff, eq_comm]
    · next hcased =>
      -- A character without a case is the only one with its lower case.
      simp only [CharTest.holds]
      simp only [isAsciiCased] at hcased
      unfold asciiLower
      grind

/-- How the characters are compared under a pattern: as they stand if it has an upper case letter,
else in lower case. -/
def comparedAs (pattern : List CodePoint) : CodePoint → CodePoint :=
  if pattern.any CodePoint.isUpper then id else CodePoint.toLower

theorem ignoreCase_smartFlags {pattern : List CodePoint} (hascii : ∀ c ∈ pattern, c.toNat < 128) :
    (smartFlags pattern).ignoreCase = !pattern.any CodePoint.isUpper := by
  have hany : (pattern.any fun c => isUpper c.toNat) = pattern.any CodePoint.isUpper := by
    induction pattern with
    | nil => rfl
    | cons c pattern ih =>
      have hrest := ih fun d hd => hascii d (List.mem_cons_of_mem c hd)
      rw [List.any_cons, List.any_cons, hrest, isUpper_of_lt (hascii c (by simp))]
  simp [smartFlags, hany]

theorem holds_ordinaryTest_iff {pattern : List CodePoint} (hascii : ∀ c ∈ pattern, c.toNat < 128)
    {c d : CodePoint}
    (hc : c.toNat < 128) (hliteral : IsLiteral c) (hd : d.toNat < 128) :
    (ordinaryTest (smartFlags pattern) c).holds d.toNat = true
      ↔ comparedAs pattern c = comparedAs pattern d := by
  unfold ordinaryTest comparedAs
  rw [if_neg hliteral.2, holds_literalTest_iff _ hc hd, ignoreCase_smartFlags hascii]
  cases pattern.any CodePoint.isUpper with
  | true => simp [CodePoint.toNat_inj]
  | false => simp [asciiLower_eq_iff]

/-- The tests of some literal characters hold of the characters that compare equal to them. -/
theorem passes_map_iff {pattern : List CodePoint} (hascii : ∀ c ∈ pattern, c.toNat < 128)
    {row cs : List CodePoint}
    (hrow : ∀ c ∈ row, c.toNat < 128 ∧ IsLiteral c) (hcs : ∀ c ∈ cs, c.toNat < 128) :
    Passes (row.map (ordinaryTest (smartFlags pattern))) cs
      ↔ row.map (comparedAs pattern) = cs.map (comparedAs pattern) := by
  induction row generalizing cs with
  | nil => cases cs <;> simp
  | cons c row ih =>
    have hrest : ∀ d ∈ row, d.toNat < 128 ∧ IsLiteral d := fun d hd => hrow d (List.mem_cons_of_mem c hd)
    cases cs with
    | nil => simp
    | cons d cs =>
      obtain ⟨hc, hliteral⟩ := hrow c (by simp)
      have hd : d.toNat < 128 := hcs d (by simp)
      have hcs : ∀ d ∈ cs, d.toNat < 128 := fun e he => hcs e (List.mem_cons_of_mem d he)
      simp only [List.map_cons, List.cons.injEq, ← ih hrest hcs,
        ← holds_ordinaryTest_iff hascii hc hliteral hd]
      exact List.forall₂_cons

end Pattern

/-! ## §4 Literal rules -/

namespace Rule

/-- A rule that asks for a literal pattern in one field can be built, and passes the messages whose
field contains the pattern: as it stands if it has an upper case letter, else up to the case of
ASCII letters. -/
theorem matches_literal_iff (name : Text) (field : PatternField) {pattern : Text}
    (hne : pattern ≠ "") (hascii : IsAscii pattern)
    (hliteral : ∀ c ∈ pattern.toList, Pattern.IsLiteral c) (transient : Bool) :
    ∃ r, Rule.build (.asking name field pattern) transient = .ok r
      ∧ ∀ m : Message, IsAscii (m.field field) → (r.matches m = true
        ↔ if pattern.toList.any CodePoint.isUpper then pattern.toList <:+: (m.field field).toList
          else pattern.toList.map CodePoint.toLower
            <:+: (m.field field).toList.map CodePoint.toLower) := by
  obtain ⟨p, hcompile, hoccurs⟩ :=
    Pattern.exists_compile_ordinary fun c hc => (hliteral c hc).1
  obtain ⟨r, hbuild⟩ := exists_build_asking name field hne hcompile transient
  have hmatches := matches_asking (criteria_of_build hbuild) hne hcompile
  refine ⟨r, hbuild, ?_⟩
  intro m hfield
  -- Character by character, a part passes if it is the pattern as far as both are compared.
  have hpasses : ∀ middle, middle <:+: (m.field field).toList →
      (Pattern.Passes (Pattern.ordinaryTests pattern.toList) middle
        ↔ pattern.toList.map (Pattern.comparedAs pattern.toList)
          = middle.map (Pattern.comparedAs pattern.toList)) := by
    intro middle hmiddle
    apply Pattern.passes_map_iff hascii
    · exact fun c hc => ⟨hascii c hc, hliteral c hc⟩
    · exact fun c hc => hfield c (hmiddle.subset hc)
  calc r.matches m = true
      ↔ ∃ middle, middle <:+: (m.field field).toList
          ∧ Pattern.Passes (Pattern.ordinaryTests pattern.toList) middle := by rw [hmatches, hoccurs]
    _ ↔ ∃ middle, middle <:+: (m.field field).toList
          ∧ pattern.toList.map (Pattern.comparedAs pattern.toList)
            = middle.map (Pattern.comparedAs pattern.toList) :=
        exists_congr fun middle => and_congr_right (hpasses middle)
    _ ↔ pattern.toList.map (Pattern.comparedAs pattern.toList)
          <:+: (m.field field).toList.map (Pattern.comparedAs pattern.toList) :=
        List.infix_map_iff.symm
    _ ↔ _ := by
        unfold Pattern.comparedAs
        split <;> simp

/-- A tag with another capital letter is found by a pattern in lower case, and another tag is not.
-/
theorem matches_literal_iff_lower : ∃ r, Rule.build (.asking "radio" .tag "wifi") false = .ok r
    ∧ r.matches ⟨"", 1, "?", "WifiService", .info, "", none⟩ = true
    ∧ r.matches ⟨"", 1, "?", "Bluetooth", .info, "wifi", none⟩ = false := by
  have hall : (Text.toList "wifi").all (fun c => decide (Pattern.IsLiteral c)) = true := by decide
  have hliteral : ∀ c ∈ Text.toList "wifi", Pattern.IsLiteral c :=
    fun c hc => of_decide_eq_true (List.all_eq_true.1 hall c hc)
  obtain ⟨r, hbuild, hmatches⟩ :=
    matches_literal_iff "radio" .tag (show ("wifi" : Text) ≠ "" by decide)
      (by decide) hliteral false
  refine ⟨r, hbuild, ?_, ?_⟩
  · exact (hmatches _ (by decide)).2 (by decide)
  · rw [← Bool.not_eq_true, hmatches _ (by decide)]
    decide

end Rule

end LogViewer
