import LogViewer.Json.Reader
import LogViewer.Json.Writer

/-!
# Reading what was written

The reader takes a written string back character by character, and a written object member by
member. The escapes of the writer and those of the reader mirror each other: a short escape names
one character, and a control without a short escape is written with four hexadecimal digits.

## Main statements

- `readString_escape`: one written character
- `readString_writeString`: a whole string
- `readMembers_writeMembers`, `read_writeObject`: an object whose values are strings
-/

namespace LogViewer.Json

/-! ## §1 One character -/

/-- The four digits of a control character are the digits of its code. -/
theorem unit?_hexDigits : ∀ n < 32, ∃ a b c d,
    Text.hexDigits 4 n = [a, b, c, d] ∧ unit? a b c d = some n := by
  intro n hn
  refine ⟨_, _, _, _, rfl, ?_⟩
  revert n
  decide

/-- The ways in which a character is written: with a short escape that the reader knows, as a
control with four digits, or as it is. -/
theorem escape_cases (c : CodePoint) :
    (∃ mark ∈ (['"', '\\', 'n', 'r', 't', 'b', 'f'] : List CodePoint),
      escape c = [('\\' : CodePoint), mark] ∧ shortEscape? mark = some c) ∨
    (c.toNat < 32 ∧ escape c = .char '\\' :: .char 'u' :: Text.hexDigits 4 c.toNat) ∨
    (c ≠ '"' ∧ c ≠ '\\' ∧ 32 ≤ c.toNat ∧ escape c = [c]) := by
  have short : ∀ mark ∈ (['"', '\\', 'n', 'r', 't', 'b', 'f'] : List CodePoint),
      [('\\' : CodePoint), mark] = escape c → shortEscape? mark = some c →
      ∃ mark ∈ (['"', '\\', 'n', 'r', 't', 'b', 'f'] : List CodePoint),
        escape c = [('\\' : CodePoint), mark] ∧ shortEscape? mark = some c :=
    fun mark hmem heq hmark => ⟨mark, hmem, heq.symm, hmark⟩
  -- The cases follow the tests of the writer, one after the other.
  by_cases hquote : c = '"'
  · subst hquote
    exact .inl (short '"' (by simp) rfl rfl)
  by_cases hback : c = '\\'
  · subst hback
    exact .inl (short '\\' (by simp) rfl rfl)
  by_cases hfeed : c = '\n'
  · subst hfeed
    exact .inl (short 'n' (by simp) rfl rfl)
  by_cases hreturn : c = '\r'
  · subst hreturn
    exact .inl (short 'r' (by simp) rfl rfl)
  by_cases htab : c = '\t'
  · subst htab
    exact .inl (short 't' (by simp) rfl rfl)
  by_cases hbackspace : c = '\x08'
  · subst hbackspace
    exact .inl (short 'b' (by simp) rfl rfl)
  by_cases hform : c = '\x0c'
  · subst hform
    exact .inl (short 'f' (by simp) rfl rfl)
  right
  unfold escape
  rw [if_neg hquote, if_neg hback, if_neg hfeed, if_neg hreturn, if_neg htab, if_neg hbackspace,
    if_neg hform]
  by_cases hcode : c.toNat < 32
  · exact .inl ⟨hcode, if_pos hcode⟩
  · exact .inr ⟨hquote, hback, Nat.le_of_not_lt hcode, if_neg hcode⟩

/-- A written character is itself, or begins with a backslash. -/
theorem escape_eq (c : CodePoint) : escape c = [c] ∨ ∃ rest, escape c = .char '\\' :: rest := by
  rcases escape_cases c with ⟨mark, _, heq, _⟩ | ⟨_, heq⟩ | ⟨_, _, _, heq⟩
  · exact .inr ⟨_, heq⟩
  · exact .inr ⟨_, heq⟩
  · exact .inl heq

/-- No written character begins with a quote. -/
theorem escape_ne_quote (c : CodePoint) (rest : List CodePoint) : escape c ≠ .char '"' :: rest := by
  intro h
  rcases escape_cases c with ⟨mark, _, heq, _⟩ | ⟨_, heq⟩ | ⟨hquote, _, _, heq⟩
  · simp [heq] at h
  · simp [heq] at h
  · simp [heq, hquote] at h

/-- A character that needs no escape is written as it is. -/
theorem escape_plain {c : CodePoint} (hq : c ≠ '"') (hb : c ≠ '\\') (hc : 32 ≤ c.toNat) :
    escape c = [c] := by
  rcases escape_cases c with ⟨mark, hmark, _, hshort⟩ | ⟨hcode, _⟩ | ⟨_, _, _, heq⟩
  · -- The short escapes are those of the quote, the backslash and five controls.
    simp only [List.mem_cons, List.not_mem_nil, or_false] at hmark
    rcases hmark with rfl | rfl | rfl | rfl | rfl | rfl | rfl <;> cases hshort
    · exact absurd rfl hq
    · exact absurd rfl hb
    all_goals exact absurd hc (by decide)
  · omega
  · exact heq

/-- The characters of an escape that is already read are skipped. -/
theorem readString_skip (opened : Nat) (taken rest acc : List CodePoint) :
    readString opened taken.length (taken ++ rest) acc = readString opened 0 rest acc := by
  induction taken with
  | nil => rfl
  | cons c taken ih => simpa [readString] using ih

/-- An escape that the reader understands is read as its character. -/
theorem readString_of_readEscape {opened : Nat} (taken : List CodePoint) {rest acc : List CodePoint}
    {e : CodePoint} (hne : taken ≠ []) (h : readEscape (taken ++ rest) = .ok (e, taken.length)) :
    readString opened 0 ('\\' :: (taken ++ rest)) acc = readString opened 0 rest (e :: acc) := by
  -- A backslash at the very end would be refused before any escape is read.
  have hempty : (taken ++ rest).isEmpty = false := by
    cases taken with
    | nil => exact absurd rfl hne
    | cons c taken => rfl
  rw [readString]
  simp only [hempty, h]
  simpa using readString_skip opened taken rest (e :: acc)

/-- A short escape is read as the character that it names. -/
theorem readEscape_short {mark c : CodePoint} (hu : mark ≠ 'u') (h : shortEscape? mark = some c)
    (rest : List CodePoint) : readEscape (mark :: rest) = .ok (c, 1) := by
  unfold readEscape
  split
  · next heq => exact absurd (List.cons.inj heq).1 hu
  · next heq => exact absurd (List.cons.inj heq).1 hu
  · next heq => rw [← (List.cons.inj heq).1, h]
  · next heq => cases heq

/-- A short escape that the writer uses does not begin four digits. -/
theorem ne_u_of_shortEscape? {mark c : CodePoint} (h : shortEscape? mark = some c) :
    mark ≠ 'u' := by
  rintro rfl
  cases h

/-- One written character is read back, if something follows it. -/
theorem readString_escape (opened : Nat) (c : CodePoint) {rest : List CodePoint} (hrest : rest ≠ [])
    (acc : List CodePoint) :
    readString opened 0 (escape c ++ rest) acc = readString opened 0 rest (c :: acc) := by
  rcases escape_cases c with ⟨mark, _, heq, hmark⟩ | ⟨hcode, heq⟩ | ⟨hquote, hback, hcode, heq⟩
  · rw [heq]
    apply readString_of_readEscape [mark] (by simp)
    exact readEscape_short (ne_u_of_shortEscape? hmark) hmark rest
  · -- Four digits, which the reader takes only if a character follows them.
    obtain ⟨a, b, d, e, hdigits, hunit⟩ := unit?_hexDigits c.toNat hcode
    obtain ⟨next, more, rfl⟩ := List.exists_cons_of_ne_nil hrest
    have hhalf : isHighHalf c.toNat = false := by simp [isHighHalf]; omega
    rw [heq, hdigits]
    apply readString_of_readEscape ['u', a, b, d, e] (by simp)
    simp [readEscape, hunit, hhalf]
  · -- The reader refuses controls, of which this is none.
    rw [heq, List.singleton_append, readString]
    simp [hquote, hback, Nat.not_lt.2 hcode]

/-! ## §2 Strings -/

/-- A written string is read back up to its closing quote. -/
theorem readString_writeString (opened : Nat) (s rest acc : List CodePoint) :
    readString opened 0 (s.flatMap escape ++ .char '"' :: rest) acc
      = .ok (acc.reverse ++ s, rest) := by
  induction s generalizing acc with
  | nil => simp [readString]
  | cons c s ih =>
    rw [List.flatMap_cons, List.append_assoc, readString_escape opened c (by simp), ih]
    simp

/-- A value that begins with a quote is a string. -/
theorem readValue_quote (fuel : Nat) (rest : List CodePoint) :
    readValue (fuel + 1) (.char '"' :: rest) = (readString (.char '"' :: rest).length 0 rest []).map
      fun (text, rest) => (.str (Text.ofList text), rest) := rfl

/-- A written string is a value. -/
theorem readValue_writeString (fuel : Nat) (s : Text) (rest : List CodePoint) :
    readValue (fuel + 1) (writeString s.toList ++ rest) = .ok (.str s, rest) := by
  have hshape : writeString s.toList ++ rest
      = .char '"' :: (s.toList.flatMap escape ++ .char '"' :: rest) := by
    simp [writeString]
  rw [hshape, readValue_quote, readString_writeString]
  simp [Except.map]

/-! ## §3 Objects -/

/-- A value that begins with a brace is an object, which is empty if the closing brace follows. -/
theorem readValue_brace (fuel : Nat) (rest : List CodePoint) :
    readValue (fuel + 1) ('\x7b' :: rest) =
      match skipSpace rest with
      | '\x7d' :: rest => .ok (.obj [], rest)
      | rest => readMembers fuel rest [] := rfl

/-- The members of an object with one more key and its string. -/
def putString (members : Members) (m : Text × Text) : Members :=
  Value.put members m.1 (.str m.2)

/-- One written member is read, and what follows it decides whether the object goes on. -/
theorem readMembers_member (fuel : Nat) (m : Text × Text) (rest : List CodePoint)
    (members : Members) :
    readMembers (fuel + 2)
        (writeString m.1.toList ++ [(':' : CodePoint), ' '] ++ writeString m.2.toList
          ++ rest) members =
      match skipSpace rest with
      | '\x7d' :: rest => .ok (.obj (putString members m), rest)
      | ',' :: rest => readMembers (fuel + 1) (skipSpace rest) (putString members m)
      | rest => refuse .expectingComma rest := by
  have hshape : writeString m.1.toList ++ [(':' : CodePoint), ' '] ++ writeString m.2.toList ++ rest
      = .char '"' :: (m.1.toList.flatMap escape
          ++ .char '"' :: .char ':' :: .char ' ' :: (writeString m.2.toList ++ rest)) := by
    simp [writeString]
  have hcolon : skipSpace (':' :: ' ' :: (writeString m.2.toList ++ rest))
      = .char ':' :: .char ' ' :: (writeString m.2.toList ++ rest) := rfl
  have hspace : skipSpace (' ' :: (writeString m.2.toList ++ rest))
      = writeString m.2.toList ++ rest := rfl
  rw [hshape, readMembers, readString_writeString]
  simp only [bind, Except.bind, hcolon, hspace, readValue_writeString, List.reverse_nil,
    List.nil_append, Text.ofList_toList]
  rfl

/-- Written members begin with the quote of the first key. -/
theorem writeMembers_eq_quote {ms : List (Text × Text)} (hne : ms ≠ []) :
    ∃ rest, writeMembers ms = .char '"' :: rest := by
  match ms, hne with
  | [m], _ => exact ⟨_, rfl⟩
  | m :: next :: ms, _ => exact ⟨_, rfl⟩

/-- No white space is skipped before written members. -/
theorem skipSpace_writeMembers {ms : List (Text × Text)} (hne : ms ≠ []) (rest : List CodePoint) :
    skipSpace (writeMembers ms ++ rest) = writeMembers ms ++ rest := by
  obtain ⟨more, hquote⟩ := writeMembers_eq_quote hne
  rw [hquote]
  rfl

/-- Written members take up at least one character each. -/
theorem length_le_writeMembers (ms : List (Text × Text)) :
    ms.length ≤ (writeMembers ms).length := by
  match ms with
  | [] => simp [writeMembers]
  | [m] => simp [writeMembers, writeString]
  | m :: next :: ms =>
    have := length_le_writeMembers (next :: ms)
    simp [writeMembers, writeString] at this ⊢
    omega

/-- The written members of an object are read back in order. -/
theorem readMembers_writeMembers (ms : List (Text × Text)) (hne : ms ≠ []) {fuel : Nat}
    (hfuel : ms.length + 1 ≤ fuel) (rest : List CodePoint) (members : Members) :
    readMembers fuel (writeMembers ms ++ .char '\x7d' :: rest) members
      = .ok (.obj (ms.foldl putString members), rest) := by
  induction ms generalizing fuel members with
  | nil => exact absurd rfl hne
  | cons m ms ih =>
    -- A member takes fuel for itself and for its value.
    obtain ⟨fuel, rfl⟩ : ∃ n, fuel = n + 2 := ⟨fuel - 2, by simp at hfuel; omega⟩
    cases ms with
    | nil =>
      rw [writeMembers, readMembers_member]
      rfl
    | cons next ms =>
      -- The comma sends the reader to the next member, past the space.
      have hsplit : writeMembers (m :: next :: ms) ++ .char '\x7d' :: rest
          = writeString m.1.toList ++ [(':' : CodePoint), ' '] ++ writeString m.2.toList
            ++ .char ',' :: .char ' ' :: (writeMembers (next :: ms) ++ .char '\x7d' :: rest) := by
        simp [writeMembers]
      have hcomma : skipSpace (.char ',' :: .char ' ' ::
          (writeMembers (next :: ms) ++ .char '\x7d' :: rest))
          = .char ',' :: .char ' ' :: (writeMembers (next :: ms) ++ .char '\x7d' :: rest) := rfl
      have hnext : skipSpace (.char ' ' :: (writeMembers (next :: ms) ++ .char '\x7d' :: rest))
          = writeMembers (next :: ms) ++ .char '\x7d' :: rest :=
        skipSpace_writeMembers (List.cons_ne_nil next ms) ('\x7d' :: rest)
      rw [hsplit, readMembers_member]
      simp only [hcomma, hnext]
      rw [ih (by simp) (by simp at hfuel ⊢; omega)]
      rfl

/-- A written object that is not empty is read back. -/
theorem readChars_writeObject (ms : List (Text × Text)) (hne : ms ≠ []) :
    readChars (writeObject ms) = .ok (.obj (ms.foldl putString [])) := by
  have hbrace : writeObject ms = .char '\x7b' :: (writeMembers ms ++ [('\x7d' : CodePoint)]) := by
    simp [writeObject]
  have hskip : skipSpace ('\x7b' :: (writeMembers ms ++ [('\x7d' : CodePoint)]))
      = .char '\x7b' :: (writeMembers ms ++ [('\x7d' : CodePoint)]) := rfl
  -- There are fewer members than characters, so the fuel is enough.
  have hread : readMembers (2 * (writeObject ms).length + 1)
      (writeMembers ms ++ [('\x7d' : CodePoint)]) []
      = .ok (.obj (ms.foldl putString []), []) := by
    apply readMembers_writeMembers ms hne
    have := length_le_writeMembers ms
    simp [hbrace]
    omega
  obtain ⟨more, hquote⟩ := writeMembers_eq_quote hne
  have hvalue : readValue (2 * (writeObject ms).length + 2)
      ('\x7b' :: (writeMembers ms ++ [('\x7d' : CodePoint)]))
        = .ok (.obj (ms.foldl putString []), []) := by
    rw [readValue_brace, skipSpace_writeMembers hne]
    rw [hquote] at hread ⊢
    exact hread
  rw [hbrace] at hvalue ⊢
  rw [readChars]
  · rw [hskip, hvalue]
    rfl
  · -- A written object does not begin with a byte order mark.
    intro rest hbom
    cases hbom

/-- A written object that is not empty is read back as a text. -/
theorem read_writeObject (ms : List (Text × Text)) (hne : ms ≠ []) :
    read (Text.ofList (writeObject ms)) = .ok (.obj (ms.foldl putString [])) := by
  rw [read, Text.toList_ofList, readChars_writeObject ms hne]
  rfl

end LogViewer.Json
