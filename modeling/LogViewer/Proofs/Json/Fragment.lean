import LogViewer.Proofs.Json.ReadWritten
import LogViewer.Proofs.Text.Cut

/-!
# Fragments of written objects

The writer leaves line boundaries beyond ASCII as they are, so a reader of lines can cut a written
object apart inside its strings. No fragment is then taken for an object with members: the first
one ends inside a string, and a later one begins inside a string. A later fragment may begin with a
brace of its own, but the quote that follows closes the string it began in, and what comes after
it is a comma and the next key instead of a colon.

## Main statements

- `readMembers_first`: the first fragment is refused
- `Later`, `later_of_mem_tail`: what later fragments look like
- `Later.readChars_ne_obj`: a later fragment is no object with members
-/

namespace LogViewer.Json

open LogViewer.Text (isLineBreak splitOnP_eq_takeWhile_cons exists_suffix_of_mem_tail
  suffix_of_suffix_append)

/-! ## §1 Boundaries in written text -/

/-- The character is no line boundary. -/
abbrev holds (c : CodePoint) : Bool := !isLineBreak c

/-- The digits of a control character are no line boundaries. -/
theorem isLineBreak_hexDigits : ∀ n < 32, ∀ x ∈ Text.hexDigits 4 n, isLineBreak x = false := by
  have hdigits : ∀ n < 32, (Text.hexDigits 4 n).all holds = true := by decide
  intro n hn x hx
  have hx' : holds x = true := List.all_eq_true.1 (hdigits n hn) x hx
  simpa [holds] using hx'

/-- A line boundary that is written as it is: next line, line separator, paragraph separator. -/
def isRawBreak (c : CodePoint) : Bool :=
  let code := c.toNat
  code == 0x85 || code == 0x2028 || code == 0x2029

/-- A raw boundary stays a boundary. -/
theorem escape_of_isRawBreak {c : CodePoint} (h : isRawBreak c = true) :
    escape c = [c] ∧ isLineBreak c = true := by
  simp only [isRawBreak, Bool.or_eq_true, beq_iff_eq] at h
  constructor
  · apply escape_plain
    · rintro rfl; simp at h
    · rintro rfl; simp at h
    · omega
  · simp only [isLineBreak, Bool.or_eq_true, beq_iff_eq]
    omega

/-- Any other character is written without line boundaries. -/
theorem holds_of_mem_escape {c x : CodePoint} (h : isRawBreak c = false) (hx : x ∈ escape c) :
    holds x = true := by
  rcases escape_cases c with ⟨mark, hmark, heq, _⟩ | ⟨hcode, heq⟩ | ⟨_, _, hcode, heq⟩
  · have hmarks : ∀ y ∈ (['\\', '"', '\\', 'n', 'r', 't', 'b', 'f'] : List CodePoint),
        holds y = true := by
      simp [holds, isLineBreak]
    rw [heq, List.mem_cons, List.mem_singleton] at hx
    rcases hx with rfl | rfl
    · exact hmarks _ (List.mem_cons_self ..)
    · exact hmarks _ (List.mem_cons_of_mem _ hmark)
  · rw [heq, List.mem_cons, List.mem_cons] at hx
    rcases hx with rfl | rfl | hx
    · decide
    · decide
    · simp [holds, isLineBreak_hexDigits c.toNat hcode x hx]
  · -- Beyond the controls, the raw boundaries are all the boundaries there are.
    rw [heq, List.mem_singleton] at hx
    subst hx
    simp [isRawBreak] at h
    simp [holds, isLineBreak]
    omega

/-- A boundary inside a written string is followed by the rest of the string, written. -/
theorem suffix_of_escaped {sep : CodePoint} (hsep : isLineBreak sep = true) (s : List CodePoint)
    {rest after : List CodePoint} (h : sep :: rest <:+ s.flatMap escape ++ after) :
    (∃ more : List CodePoint, rest = more.flatMap escape ++ after) ∨ sep :: rest <:+ after := by
  induction s with
  | nil => exact .inr h
  | cons c s ih =>
    rw [List.flatMap_cons, List.append_assoc] at h
    cases hc : isRawBreak c with
    | true =>
      -- The boundary is this character, or it comes later.
      rw [(escape_of_isRawBreak hc).1] at h
      rcases List.suffix_cons_iff.1 h with heq | h
      · exact .inl ⟨s, (List.cons.inj heq).2⟩
      · exact ih h
    | false =>
      -- What this character is written as holds no boundary, so it comes later.
      have hplain : ∀ x ∈ escape c, isLineBreak x = false := by
        intro x hx
        simpa [holds] using holds_of_mem_escape hc hx
      exact ih (suffix_of_suffix_append hsep hplain h)

/-- A boundary in a written string is a raw boundary of the string. -/
theorem isRawBreak_of_mem_escaped {s : List CodePoint} {x : CodePoint} (hx : x ∈ s.flatMap escape)
    (hb : isLineBreak x = true) : isRawBreak x = true ∧ s.any isRawBreak = true := by
  obtain ⟨c, hc, hx⟩ := List.mem_flatMap.1 hx
  cases hraw : isRawBreak c with
  | true =>
    rw [(escape_of_isRawBreak hraw).1, List.mem_singleton] at hx
    subst hx
    exact ⟨hraw, List.any_eq_true.2 ⟨x, hc, hraw⟩⟩
  | false =>
    have := holds_of_mem_escape hraw hx
    rw [holds, hb] at this
    cases this

/-- A string without raw boundaries is written without boundaries. -/
theorem holds_of_mem_escaped {s : List CodePoint} (h : s.any isRawBreak = false) {x : CodePoint}
    (hx : x ∈ s.flatMap escape) : holds x = true := by
  cases hb : isLineBreak x with
  | true =>
    rw [(isRawBreak_of_mem_escaped hx hb).2] at h
    cases h
  | false => simp [holds, hb]

/-- All of a string without raw boundaries stands before the first boundary. -/
theorem takeWhile_of_whole {s : List CodePoint} (h : s.any isRawBreak = false)
    (after : List CodePoint) :
    (s.flatMap escape ++ after).takeWhile holds = s.flatMap escape ++ after.takeWhile holds :=
  List.takeWhile_append_of_pos fun _ hx => holds_of_mem_escaped h hx

/-- The part of a string before its first raw boundary is written before the boundary. -/
theorem takeWhile_of_broken {s : List CodePoint} (h : s.any isRawBreak = true)
    (after : List CodePoint) :
    (s.flatMap escape ++ after).takeWhile holds
      = (s.takeWhile fun c => !isRawBreak c).flatMap escape := by
  induction s with
  | nil => cases h
  | cons c s ih =>
    rw [List.flatMap_cons, List.append_assoc]
    cases hc : isRawBreak c with
    | true =>
      obtain ⟨heq, hb⟩ := escape_of_isRawBreak hc
      simp [heq, hb, hc, holds]
    | false =>
      have hrest : s.any isRawBreak = true := by simpa [hc] using h
      rw [List.takeWhile_append_of_pos fun x hx => holds_of_mem_escape hc hx, ih hrest]
      simp [hc]

/-! ## §2 The first fragment -/

/-- A string that ends after an escape is refused. -/
theorem readString_last (opened : Nat) (c : CodePoint) (acc : List CodePoint) :
    ∃ e, readString opened 0 (escape c) acc = .error e := by
  rcases escape_cases c with ⟨mark, _, heq, hmark⟩ | ⟨hcode, heq⟩ | ⟨hquote, hback, hcode, heq⟩
  · refine ⟨.malformed .unterminatedString opened, ?_⟩
    rw [heq, readString]
    simp [readEscape_short (ne_u_of_shortEscape? hmark) hmark, readString]
  · -- No character follows the four digits.
    obtain ⟨a, b, d, e, hdigits, _⟩ := unit?_hexDigits c.toNat hcode
    rw [heq, hdigits]
    exact ⟨_, rfl⟩
  · refine ⟨.malformed .unterminatedString opened, ?_⟩
    rw [heq, readString]
    simp [hquote, hback, Nat.not_lt.2 hcode, readString]

/-- A string that does not end is refused. -/
theorem readString_unclosed (opened : Nat) (s acc : List CodePoint) :
    ∃ e, readString opened 0 (s.flatMap escape) acc = .error e := by
  induction s generalizing acc with
  | nil => exact ⟨_, rfl⟩
  | cons c s ih =>
    rw [List.flatMap_cons]
    by_cases hs : s.flatMap escape = []
    · rw [hs, List.append_nil]
      exact readString_last opened c acc
    · rw [readString_escape opened c hs]
      exact ih (c :: acc)

/-- Fuel for less than a key and a value refuses all members. -/
theorem readMembers_of_fuel_lt {fuel : Nat} (h : fuel < 2) (s : List CodePoint)
    (members : Members) :
    ∃ e, readMembers fuel s members = .error e := by
  match fuel, h with
  | 0, _ => exact ⟨_, rfl⟩
  | 1, _ =>
    rw [readMembers.eq_def]
    dsimp only
    split
    · next rest =>
      cases hkey : readString (.char '"' :: rest).length 0 rest [] with
      | error e => exact ⟨e, rfl⟩
      | ok read =>
        obtain ⟨key, rest⟩ := read
        simp only [bind, Except.bind]
        split
        · exact ⟨_, rfl⟩
        · exact ⟨_, rfl⟩
    · exact ⟨_, rfl⟩

/-- A member whose string does not end is refused. -/
theorem readMembers_unclosed (fuel : Nat) (key : Text) (s : List CodePoint) (members : Members) :
    ∃ e, readMembers fuel (writeString key.toList ++ [(':' : CodePoint), ' ']
      ++ .char '"' :: s.flatMap escape) members
      = .error e := by
  have hshape : writeString key.toList ++ [(':' : CodePoint), ' '] ++ .char '"' :: s.flatMap escape
      = .char '"' :: (key.toList.flatMap escape
        ++ .char '"' :: .char ':' :: .char ' ' :: .char '"' :: s.flatMap escape) := by
    simp [writeString]
  have hcolon : skipSpace (':' :: ' ' :: '"' :: s.flatMap escape)
      = .char ':' :: .char ' ' :: .char '"' :: s.flatMap escape := rfl
  have hspace : skipSpace (.char ' ' :: .char '"' :: s.flatMap escape)
      = .char '"' :: s.flatMap escape := rfl
  rcases Nat.lt_or_ge fuel 2 with hfuel | hfuel
  · exact readMembers_of_fuel_lt hfuel _ members
  · obtain ⟨fuel, rfl⟩ := Nat.exists_eq_add_of_le' hfuel
    obtain ⟨e, he⟩ := readString_unclosed (.char '"' :: s.flatMap escape).length s []
    refine ⟨e, ?_⟩
    rw [hshape, readMembers, readString_writeString]
    simp only [bind, Except.bind, hcolon, hspace, readValue_quote, he, Except.map]

/-- A member is written before what follows it. -/
theorem writeMembers_cons (m : Text × Text) (ms : List (Text × Text)) :
    writeMembers (m :: ms)
      = writeString m.1.toList ++ [(':' : CodePoint), ' '] ++ writeString m.2.toList
      ++ if ms = [] then [] else .char ',' :: .char ' ' :: writeMembers ms := by
  cases ms with
  | nil => simp [writeMembers]
  | cons next ms => simp [writeMembers]

/-- The first fragment of members that are cut apart is refused. -/
theorem readMembers_first (fuel : Nat) (ms : List (Text × Text)) (after : List CodePoint)
    (hkeys : ∀ m ∈ ms, m.1.toList.any isRawBreak = false)
    (hcut : ∃ m ∈ ms, m.2.toList.any isRawBreak = true) (members : Members) :
    ∃ e, readMembers fuel ((writeMembers ms ++ after).takeWhile holds) members = .error e := by
  induction ms generalizing fuel members with
  | nil => simp at hcut
  | cons m ms ih =>
    have hkey : m.1.toList.any isRawBreak = false := hkeys m (List.mem_cons_self ..)
    -- The fragment begins with the whole key and the quote that opens the value.
    have hhead (rest : List CodePoint) :
        (writeString m.1.toList ++ [(':' : CodePoint), ' '] ++ writeString m.2.toList
          ++ rest).takeWhile holds
          = writeString m.1.toList ++ [(':' : CodePoint), ' ']
            ++ .char '"' :: (m.2.toList.flatMap escape ++ .char '"' :: rest).takeWhile holds := by
      have hopen (more : List CodePoint) :
          (.char '"' :: more).takeWhile holds = .char '"' :: more.takeWhile holds :=
        rfl
      have hmid (more : List CodePoint) :
          (.char '"' :: .char ':' :: .char ' ' :: .char '"' :: more).takeWhile holds
          = .char '"' :: .char ':' :: .char ' ' :: .char '"' :: more.takeWhile holds := rfl
      simp only [writeString, List.cons_append, List.append_assoc, List.nil_append]
      rw [hopen, takeWhile_of_whole hkey, hmid]
    rw [writeMembers_cons, List.append_assoc, hhead]
    cases hm : m.2.toList.any isRawBreak with
    | true =>
      -- The fragment ends inside the value, whose string is then not closed.
      rw [takeWhile_of_broken hm]
      exact readMembers_unclosed fuel m.1 _ members
    | false =>
      -- The value is whole, so the fragment goes on with the comma and the next members.
      obtain ⟨m', hmem, hbroken⟩ := hcut
      have hmem' : m' ∈ ms := by
        rcases List.mem_cons.1 hmem with rfl | hmem
        · rw [hm] at hbroken
          cases hbroken
        · exact hmem
      have hne : ms ≠ [] := List.ne_nil_of_mem hmem'
      have hkeys' : ∀ m ∈ ms, m.1.toList.any isRawBreak = false :=
        fun m h => hkeys m (List.mem_cons_of_mem _ h)
      obtain ⟨more, hquote⟩ := writeMembers_eq_quote hne
      have hmid : (.char '"' :: ((if ms = [] then [] else .char ',' :: .char ' ' :: writeMembers ms)
            ++ after)).takeWhile holds
          = .char '"' :: .char ',' :: .char ' ' :: (writeMembers ms ++ after).takeWhile holds := by
        rw [if_neg hne]
        rfl
      have hskip : skipSpace (' ' :: (writeMembers ms ++ after).takeWhile holds)
          = (writeMembers ms ++ after).takeWhile holds := by
        rw [hquote]
        rfl
      have hcomma (rest : List CodePoint) : skipSpace (.char ',' :: rest) = .char ',' :: rest := rfl
      have hshape (rest : List CodePoint) : writeString m.1.toList ++ [(':' : CodePoint), ' ']
            ++ .char '"' :: (m.2.toList.flatMap escape ++ .char '"' :: rest)
          = writeString m.1.toList ++ [(':' : CodePoint), ' '] ++ writeString m.2.toList
            ++ rest := by
        simp [writeString]
      rw [takeWhile_of_whole hm, hmid, hshape]
      rcases Nat.lt_or_ge fuel 2 with hfuel | hfuel
      · exact readMembers_of_fuel_lt hfuel _ members
      · obtain ⟨fuel, rfl⟩ := Nat.exists_eq_add_of_le' hfuel
        rw [readMembers_member, hcomma]
        simp only [hskip]
        exact ih (fuel + 1) hkeys' ⟨m', hmem', hbroken⟩ (putString members m)

/-! ## §3 Later fragments -/

/-- How a string goes on behind its last character: not at all, or with the quote that closes it,
the comma and the next key. -/
def Closing (tail : List CodePoint) : Prop :=
  tail = [] ∨ ∃ c rest, tail = .char '"' :: .char ',' :: .char ' ' :: .char '"' :: c :: rest ∧
    c ≠ ':' ∧ isSpace c = false

/-- A fragment that begins inside a string. -/
def Later (s : List CodePoint) : Prop :=
  ∃ text tail : List CodePoint, s = text.flatMap escape ++ tail ∧ Closing tail

/-- A later fragment stays one without a first character that is neither a quote nor the beginning
of an escape. -/
theorem Later.of_cons {c : CodePoint} {s : List CodePoint} (h : Later (c :: s)) (hq : c ≠ '"')
    (hb : c ≠ '\\') : Later s := by
  obtain ⟨text, tail, heq, htail⟩ := h
  cases text with
  | nil =>
    rcases htail with rfl | ⟨d, rest, rfl, _⟩
    · simp at heq
    · exact absurd (List.cons.inj heq).1 hq
  | cons d text =>
    -- The first character is written as it is, or it is the backslash of an escape.
    rw [List.flatMap_cons, List.append_assoc] at heq
    rcases escape_eq d with hd | ⟨rest, hd⟩
    · rw [hd] at heq
      exact ⟨text, tail, (List.cons.inj heq).2, htail⟩
    · rw [hd] at heq
      exact absurd (List.cons.inj heq).1 hb

/-- White space is skipped inside the string. -/
theorem Later.skipSpace {s : List CodePoint} (h : Later s) : Later (skipSpace s) := by
  induction s with
  | nil => exact h
  | cons c s ih =>
    by_cases hc : isSpace c = true
    · have hq : c ≠ '"' := by rintro rfl; cases hc
      have hb : c ≠ '\\' := by rintro rfl; cases hc
      have hskip : Json.skipSpace (c :: s) = Json.skipSpace s := by simp [Json.skipSpace, hc]
      rw [hskip]
      exact ih (h.of_cons hq hb)
    · have hskip : Json.skipSpace (c :: s) = c :: s := by simp [Json.skipSpace, hc]
      rw [hskip]
      exact h

/-- A later fragment that begins with a quote closes its string, and a key comes next. -/
theorem Later.of_quote {s : List CodePoint} (h : Later ('"' :: s)) :
    ∃ c rest, s = .char ',' :: .char ' ' :: .char '"' :: c :: rest ∧ c ≠ ':' ∧
      isSpace c = false := by
  obtain ⟨text, tail, heq, htail⟩ := h
  cases text with
  | nil =>
    rcases htail with rfl | ⟨c, rest, rfl, hc⟩
    · simp at heq
    · exact ⟨c, rest, (List.cons.inj heq).2, hc⟩
  | cons d text =>
    rw [List.flatMap_cons, List.append_assoc] at heq
    obtain ⟨x, more, hx⟩ : ∃ x more, escape d = x :: more := by
      rcases escape_eq d with hd | ⟨more, hd⟩
      · exact ⟨d, [], hd⟩
      · exact ⟨_, more, hd⟩
    rw [hx, List.cons_append] at heq
    have hquote : x = '"' := (List.cons.inj heq).1.symm
    exact absurd (hquote ▸ hx) (escape_ne_quote d more)

/-- No members are read from inside a string: what looks like a key is no key with a colon. -/
theorem Later.readMembers {s : List CodePoint} (h : Later s) (fuel : Nat) (members : Members) :
    ∃ e, readMembers fuel s members = .error e := by
  cases fuel with
  | zero => exact ⟨_, rfl⟩
  | succ fuel =>
    rw [Json.readMembers.eq_def]
    dsimp only
    split
    · next rest =>
      obtain ⟨c, more, rfl, hcolon, hspace⟩ := h.of_quote
      -- What is read as a key is the comma and the space between two members, and what follows it
      -- is the next key in place of a colon.
      have hkey (opened : Nat) : readString opened 0 (',' :: ' ' :: '"' :: c :: more) []
          = .ok ([',', ' '], c :: more) := rfl
      have hskip : Json.skipSpace (c :: more) = c :: more := by simp [Json.skipSpace, hspace]
      rw [hkey]
      simp only [bind, Except.bind, hskip]
      split
      · next heq => exact absurd (List.cons.inj heq).1 hcolon
      · exact ⟨_, rfl⟩
    · exact ⟨_, rfl⟩

/-- A number is no object. -/
theorem readNumber_ne_obj (s : List CodePoint) (members : Members) (rest : List CodePoint) :
    readNumber s ≠ .ok (.obj members, rest) := by
  unfold readNumber
  intro h
  dsimp only at h
  -- Whatever way a number is read, the outcome is no object.
  repeat' split at h
  all_goals cases h

/-- An array is no object. -/
theorem readItems_ne_obj (fuel : Nat) (s : List CodePoint) (items : List Value) (members : Members)
    (rest : List CodePoint) : readItems fuel s items ≠ .ok (.obj members, rest) := by
  induction fuel generalizing s items with
  | zero =>
    intro h
    cases h
  | succ fuel ih =>
    intro h
    rw [readItems.eq_def] at h
    dsimp only [bind, Except.bind] at h
    cases hvalue : readValue fuel s with
    | error e => rw [hvalue] at h; cases h
    | ok read =>
      rw [hvalue] at h
      dsimp only at h
      split at h
      · cases h
      · exact ih _ _ h
      · cases h

/-- An object that is read is empty, or its members are read behind the brace. -/
theorem readValue_obj {fuel : Nat} {s rest : List CodePoint} {members : Members}
    (h : readValue fuel s = .ok (.obj members, rest)) :
    members = [] ∨ ∃ fuel' s', s = .char '\x7b' :: s' ∧
      readMembers fuel' (skipSpace s') [] = .ok (.obj members, rest) := by
  cases fuel with
  | zero => cases h
  | succ fuel =>
    rw [readValue.eq_def] at h
    dsimp only at h
    split at h
    · next rest' =>
      cases hread : readString (.char '"' :: rest').length 0 rest' [] with
      | error e => rw [hread] at h; cases h
      | ok read => rw [hread] at h; cases h
    · next rest' =>
      split at h
      · cases h
        exact .inl rfl
      · exact .inr ⟨fuel, rest', rfl, h⟩
    · split at h
      · cases h
      · exact absurd h (readItems_ne_obj fuel _ [] members rest)
    all_goals first | cases h | exact absurd h (readNumber_ne_obj _ members rest)

/-- A later fragment is no object with members. -/
theorem Later.readChars_ne_obj {s : List CodePoint} (h : Later s) (m : Text × Value)
    (members : Members) : readChars s ≠ .ok (.obj (m :: members)) := by
  intro hread
  unfold readChars at hread
  split at hread
  · cases hread
  · cases hvalue : readValue (2 * s.length + 2) (Json.skipSpace s) with
    | error e => rw [hvalue] at hread; cases hread
    | ok read =>
      obtain ⟨value, rest⟩ := read
      rw [hvalue] at hread
      simp only [bind, Except.bind] at hread
      split at hread
      · cases hread
        rcases readValue_obj hvalue with hnil | ⟨fuel, s', hs', hmembers⟩
        · cases hnil
        · -- Behind the brace there is still the inside of the string.
          have hlater := h.skipSpace
          rw [hs'] at hlater
          have hinside := (hlater.of_cons (by decide) (by decide)).skipSpace
          obtain ⟨e, he⟩ := hinside.readMembers fuel []
          rw [he] at hmembers
          cases hmembers
      · cases hread

/-! ## §4 The fragments of an object -/

/-- A key of letters. -/
def IsPlainKey (key : Text) : Prop :=
  key.toList ≠ [] ∧ ∀ c ∈ key.toList, c.isAlpha = true

/-- The code of a letter. -/
theorem toNat_of_isAlpha {c : CodePoint} (h : c.isAlpha = true) : 65 ≤ c.toNat ∧ c.toNat ≤ 122 := by
  cases c with
  | surrogate n => cases h
  | char c =>
    have hcases : (decide (65 ≤ c.val ∧ c.val ≤ 90) || (97 ≤ c.val && c.val ≤ 122)) = true := h
    simp only [Bool.or_eq_true, Bool.and_eq_true, decide_eq_true_eq,
      UInt32.le_iff_toNat_le] at hcases
    rw [CodePoint.toNat_char]
    rcases hcases with ⟨hlow, hhigh⟩ | ⟨hlow, hhigh⟩
    · simp at hlow hhigh
      omega
    · simp at hlow hhigh
      omega

/-- A letter is no boundary. -/
theorem holds_of_isAlpha {c : CodePoint} (h : c.isAlpha = true) : holds c = true := by
  obtain ⟨hlow, hhigh⟩ := toNat_of_isAlpha h
  simp [holds, isLineBreak]
  omega

/-- A plain key has no boundary. -/
theorem IsPlainKey.any_isRawBreak {key : Text} (h : IsPlainKey key) :
    key.toList.any isRawBreak = false := by
  rw [List.any_eq_false]
  intro c hc
  obtain ⟨hlow, hhigh⟩ := toNat_of_isAlpha (h.2 c hc)
  simp [isRawBreak]
  omega

/-- Members whose first key is plain are written with a letter behind the first quote. -/
theorem writeMembers_of_isPlainKey {m : Text × Text} (h : IsPlainKey m.1)
    (ms : List (Text × Text)) :
    ∃ c rest, writeMembers (m :: ms) = .char '"' :: c :: rest ∧ c.isAlpha = true := by
  obtain ⟨hne, hletters⟩ := h
  obtain ⟨c, rest, hkey⟩ := List.exists_cons_of_ne_nil hne
  have hc : c.isAlpha = true := hletters c (by rw [hkey]; exact List.mem_cons_self ..)
  have hplain : escape c = [c] := by
    obtain ⟨hlow, hhigh⟩ := toNat_of_isAlpha hc
    apply escape_plain
    · rintro rfl; cases hc
    · rintro rfl; cases hc
    · omega
  rw [writeMembers_cons, hkey]
  simp [writeString, hplain, hc]

/-- A plain key is written without boundaries. -/
theorem IsPlainKey.isLineBreak_of_mem {key : Text} (h : IsPlainKey key) {x : CodePoint}
    (hx : x ∈ Json.writeString key.toList) : isLineBreak x = false := by
  rw [Json.writeString, List.cons_append, List.mem_cons, List.mem_append, List.mem_singleton] at hx
  rcases hx with rfl | hx | rfl
  · decide
  · simpa [holds] using holds_of_mem_escaped h.any_isRawBreak hx
  · decide

/-- A boundary in a written object is a raw boundary of one of its values. -/
theorem isRawBreak_of_mem_writeObject {ms : List (Text × Text)}
    (hkeys : ∀ m ∈ ms, IsPlainKey m.1) {x : CodePoint} (hx : x ∈ writeObject ms)
    (hb : isLineBreak x = true) :
    isRawBreak x = true ∧ ∃ m ∈ ms, m.2.toList.any isRawBreak = true := by
  have hmark : ∀ c ∈ (['\x7b', '\x7d', '"', ':', ' ', ','] : List CodePoint),
      isLineBreak c = false := by
    simp [isLineBreak]
  have hnot : ∀ c ∈ (['\x7b', '\x7d', '"', ':', ' ', ','] : List CodePoint), x ≠ c := by
    rintro c hc rfl
    rw [hmark x hc] at hb
    cases hb
  simp only [List.mem_cons, List.not_mem_nil, or_false, forall_eq_or_imp, forall_eq] at hnot
  obtain ⟨hopen, hclose, hquote, hcolon, hspace, hcomma⟩ := hnot
  have hmembers : x ∈ writeMembers ms := by
    simpa [writeObject, hopen, hclose] using hx
  -- The boundary is none of the marks, so it is in a key or in a value, and keys have none.
  clear hx
  induction ms with
  | nil => simp [writeMembers] at hmembers
  | cons m ms ih =>
    have hkey : IsPlainKey m.1 := hkeys m (List.mem_cons_self ..)
    rw [writeMembers_cons, List.mem_append, List.mem_append, List.mem_append] at hmembers
    rcases hmembers with ((hx | hx) | hx) | hx
    · rw [hkey.isLineBreak_of_mem hx] at hb
      cases hb
    · simp [hcolon, hspace] at hx
    · obtain ⟨hraw, hbroken⟩ : isRawBreak x = true ∧ m.2.toList.any isRawBreak = true := by
        apply isRawBreak_of_mem_escaped _ hb
        simpa [writeString, hquote] using hx
      exact ⟨hraw, m, List.mem_cons_self .., hbroken⟩
    · split at hx
      · cases hx
      · obtain ⟨hraw, m', hm', hbroken⟩ := ih (fun m hm => hkeys m (List.mem_cons_of_mem _ hm))
          (by simpa [hcomma, hspace] using hx)
        exact ⟨hraw, m', List.mem_cons_of_mem _ hm', hbroken⟩

/-- The first fragment of an object that is cut apart is refused. -/
theorem readChars_first {ms : List (Text × Text)} (hkeys : ∀ m ∈ ms, IsPlainKey m.1)
    (hcut : ∃ m ∈ ms, m.2.toList.any isRawBreak = true) :
    ∃ e, readChars ((writeObject ms).takeWhile holds) = .error e := by
  have hne : ms ≠ [] := by
    obtain ⟨m, hm, _⟩ := hcut
    exact List.ne_nil_of_mem hm
  obtain ⟨more, hquote⟩ := writeMembers_eq_quote hne
  have hbrace : (writeObject ms).takeWhile holds
      = .char '\x7b' :: .char '"' :: (more ++ [('\x7d' : CodePoint)]).takeWhile holds := by
    rw [writeObject, hquote]
    rfl
  have hmembers : .char '"' :: (more ++ [('\x7d' : CodePoint)]).takeWhile holds
      = (writeMembers ms ++ [('\x7d' : CodePoint)]).takeWhile holds := by
    rw [hquote]
    rfl
  -- The fuel is what the reader takes for the fragment, which is what is left of the object.
  obtain ⟨e, he⟩ := readMembers_first (2 * ((writeObject ms).takeWhile holds).length + 1) ms
    ['\x7d'] (fun m hm => (hkeys m hm).any_isRawBreak) hcut []
  have hvalue : readValue (2 * ((writeObject ms).takeWhile holds).length + 2)
      ('\x7b' :: '"' :: (more ++ [('\x7d' : CodePoint)]).takeWhile holds) = .error e := by
    rw [readValue_brace]
    rw [← hmembers] at he
    exact he
  have hskip (rest : List CodePoint) :
      skipSpace (.char '\x7b' :: rest) = .char '\x7b' :: rest := rfl
  rw [hbrace] at hvalue ⊢
  rw [readChars]
  · rw [hskip, hvalue]
    exact ⟨e, rfl⟩
  · -- The fragment begins with a brace and not with a byte order mark.
    intro rest hbom
    cases hbom

/-- Behind a boundary in written members there is the rest of a string, the quote that closes it,
and the next member. -/
theorem suffix_of_members {sep : CodePoint} (hsep : isLineBreak sep = true)
    {ms : List (Text × Text)} (hkeys : ∀ m ∈ ms, IsPlainKey m.1)
    (hlast : ∀ m ∈ ms.getLast?, m.2.toList.any isRawBreak = false) {rest : List CodePoint}
    (h : sep :: rest <:+ writeMembers ms ++ [('\x7d' : CodePoint)]) :
    ∃ (text : List CodePoint) (next : Text × Text) (more : List (Text × Text)),
      IsPlainKey next.1 ∧ rest = text.flatMap escape
        ++ .char '"' :: .char ',' :: .char ' ' ::
          (writeMembers (next :: more) ++ [('\x7d' : CodePoint)]) := by
  induction ms with
  | nil =>
    have hbrace : ∀ c ∈ [('\x7d' : CodePoint)], isLineBreak c = false := by simp [isLineBreak]
    have := suffix_of_suffix_append hsep (b := []) hbrace h
    simp at this
  | cons m ms ih =>
    have hkey : IsPlainKey m.1 := hkeys m (List.mem_cons_self ..)
    have hkeys' : ∀ m ∈ ms, IsPlainKey m.1 := fun m hm => hkeys m (List.mem_cons_of_mem _ hm)
    have hlast' : ∀ m ∈ ms.getLast?, m.2.toList.any isRawBreak = false := by
      intro m' hm'
      apply hlast m'
      rw [List.getLast?_cons, Option.mem_def.1 hm']
      rfl
    -- Behind the value the object ends, or the next members come.
    have htail : sep :: rest
        <:+ .char '"' :: ((if ms = [] then [] else .char ',' :: .char ' ' :: writeMembers ms)
        ++ [('\x7d' : CodePoint)]) → sep :: rest <:+ writeMembers ms ++ [('\x7d' : CodePoint)] := by
      intro h
      by_cases hnil : ms = []
      · subst hnil
        exact suffix_of_suffix_append hsep (a := [('"' : CodePoint)]) (by simp [isLineBreak]) h
      · rw [if_neg hnil] at h
        exact suffix_of_suffix_append hsep (a := [('"' : CodePoint), ',', ' '])
          (by simp [isLineBreak]) h
    -- The key holds no boundary.
    have hvalue : sep :: rest <:+ m.2.toList.flatMap escape
        ++ .char '"' :: ((if ms = [] then [] else .char ',' :: .char ' ' :: writeMembers ms)
          ++ [('\x7d' : CodePoint)]) := by
      have hshape : writeMembers (m :: ms) ++ [('\x7d' : CodePoint)]
          = (writeString m.1.toList ++ [(':' : CodePoint), ' ', '"'])
          ++ (m.2.toList.flatMap escape
            ++ .char '"' :: ((if ms = [] then [] else .char ',' :: .char ' ' :: writeMembers ms)
              ++ [('\x7d' : CodePoint)])) := by
        rw [writeMembers_cons]
        simp [writeString]
      rw [hshape] at h
      refine suffix_of_suffix_append hsep ?_ h
      intro c hc
      rcases List.mem_append.1 hc with hc | hc
      · exact hkey.isLineBreak_of_mem hc
      · exact (by simp [isLineBreak] : ∀ c ∈ [(':' : CodePoint), ' ', '"'],
          isLineBreak c = false) c hc
    cases hm : m.2.toList.any isRawBreak with
    | false =>
      apply ih hkeys' hlast'
      apply htail
      refine suffix_of_suffix_append hsep ?_ hvalue
      intro c hc
      simpa [holds] using holds_of_mem_escaped hm hc
    | true =>
      -- The boundary is in the value, or behind it.
      rcases suffix_of_escaped hsep m.2.toList hvalue with ⟨text, htext⟩ | h
      · cases ms with
        | nil =>
          -- The last value is never cut apart, so there is a next member.
          rw [hlast m rfl] at hm
          cases hm
        | cons next more =>
          exact ⟨text, next, more, hkeys' next (List.mem_cons_self ..), by simpa using htext⟩
      · exact ih hkeys' hlast' (htail h)

/-- Every fragment of an object but the first begins inside a string. -/
theorem later_of_mem_tail {ms : List (Text × Text)} (hkeys : ∀ m ∈ ms, IsPlainKey m.1)
    (hlast : ∀ m ∈ ms.getLast?, m.2.toList.any isRawBreak = false) {piece : List CodePoint}
    (h : piece ∈ ((writeObject ms).splitOnP isLineBreak).tail) : Later piece := by
  obtain ⟨sep, rest, hsep, hsuffix, rfl⟩ := exists_suffix_of_mem_tail h
  have hmembers : sep :: rest <:+ writeMembers ms ++ [('\x7d' : CodePoint)] :=
    suffix_of_suffix_append hsep (a := [('\x7b' : CodePoint)]) (by simp [isLineBreak])
      (by simpa [writeObject] using hsuffix)
  obtain ⟨text, next, more, hnext, rfl⟩ := suffix_of_members hsep hkeys hlast hmembers
  cases htext : text.any isRawBreak with
  | true =>
    -- The string is cut apart once more, and the fragment ends inside it.
    refine ⟨text.takeWhile fun c => !isRawBreak c, [], ?_, .inl rfl⟩
    rw [List.append_nil]
    exact takeWhile_of_broken htext _
  | false =>
    -- The fragment reaches the next key, which begins with a letter.
    obtain ⟨c, key, hkey, hc⟩ := writeMembers_of_isPlainKey hnext more
    have hholds (after : List CodePoint) :
        (c :: after).takeWhile holds = c :: after.takeWhile holds := by
      rw [List.takeWhile_cons, if_pos (holds_of_isAlpha hc)]
    have hmark (after : List CodePoint) :
        (.char '"' :: .char ',' :: .char ' ' :: .char '"' :: after).takeWhile holds
        = .char '"' :: .char ',' :: .char ' ' :: .char '"' :: after.takeWhile holds := rfl
    refine ⟨text, '"' :: ',' :: ' ' :: '"' :: c ::
      (key ++ [('\x7d' : CodePoint)]).takeWhile holds, ?_,
      .inr ⟨c, _, rfl, ?_, ?_⟩⟩
    · rw [takeWhile_of_whole htext, hkey, List.cons_append, List.cons_append, hmark, hholds]
    · rintro rfl
      cases hc
    · simp only [isSpace, Bool.or_eq_false_iff, beq_eq_false_iff_ne]
      refine ⟨⟨⟨?_, ?_⟩, ?_⟩, ?_⟩ <;> rintro rfl <;> cases hc

end LogViewer.Json
