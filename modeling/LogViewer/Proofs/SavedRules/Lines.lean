import LogViewer.Proofs.SavedRules.Reload

/-!
# Lines of saved rules

A rule is saved as one line of visible characters: the writer leaves no control character as it is,
neither in a string nor between strings. The line gives back what it was written from, so it tells
criteria apart.

## Main statements

- `Json.le_of_mem_writeObject`: an object of strings is written without control characters
- `SavedRule.encode_injective`: criteria with the same line are the same
- `SavedRule.encode_exact`: the line of a rule, and the rule of that line
-/

namespace LogViewer

namespace Json

/-! ## §1 Written characters -/

/-- The digits of a control character are no control characters. -/
theorem le_of_mem_hexDigits : ∀ n < 32, ∀ d ∈ Text.hexDigits 4 n, 32 ≤ d.toNat := by
  have hdigits : ∀ n < 32, (Text.hexDigits 4 n).all (fun d => decide (32 ≤ d.toNat)) = true := by
    decide
  intro n hn d hd
  exact of_decide_eq_true (List.all_eq_true.1 (hdigits n hn) d hd)

/-- A character is written without control characters, whatever character it is. -/
theorem le_of_mem_escape {c d : CodePoint} (h : d ∈ escape c) : 32 ≤ d.toNat := by
  rcases escape_cases c with ⟨mark, hmark, heq, _⟩ | ⟨hcode, heq⟩ | ⟨_, _, hcode, heq⟩
  · have hmarks : ∀ d ∈ (['\\', '"', '\\', 'n', 'r', 't', 'b', 'f'] : List CodePoint),
        32 ≤ d.toNat := by simp
    rw [heq, List.mem_cons, List.mem_singleton] at h
    rcases h with rfl | rfl
    · exact hmarks _ (List.mem_cons_self ..)
    · exact hmarks _ (List.mem_cons_of_mem _ hmark)
  · rw [heq, List.mem_cons, List.mem_cons] at h
    rcases h with rfl | rfl | h
    · decide
    · decide
    · exact le_of_mem_hexDigits c.toNat hcode d h
  · rw [heq, List.mem_singleton] at h
    rwa [h]

/-- A string is written without control characters. -/
theorem le_of_mem_writeString {s : List CodePoint} {d : CodePoint} (h : d ∈ writeString s) :
    32 ≤ d.toNat := by
  have hquote : 32 ≤ ('"' : CodePoint).toNat := by decide
  simp only [writeString, List.mem_append, List.mem_cons, List.mem_flatMap, List.not_mem_nil,
    or_false] at h
  rcases h with (rfl | ⟨c, _, hd⟩) | rfl
  · exact hquote
  · exact le_of_mem_escape hd
  · exact hquote

/-- Members are written without control characters, with a space behind each comma and colon. -/
theorem le_of_mem_writeMembers {ms : List (Text × Text)} {d : CodePoint} (h : d ∈ writeMembers ms) :
    32 ≤ d.toNat := by
  have hcolon : ∀ d ∈ ([':', ' '] : List CodePoint), 32 ≤ d.toNat := by simp
  have hcomma : ∀ d ∈ ([',', ' '] : List CodePoint), 32 ≤ d.toNat := by simp
  induction ms using writeMembers.induct with
  | case1 => cases h
  | case2 key value =>
    rw [writeMembers, List.mem_append, List.mem_append] at h
    rcases h with (h | h) | h
    · exact le_of_mem_writeString h
    · exact hcolon d h
    · exact le_of_mem_writeString h
  | case3 key value rest hrest ih =>
    rw [writeMembers, List.mem_append, List.mem_append, List.mem_append, List.mem_append] at h
    · rcases h with (((h | h) | h) | h) | h
      · exact le_of_mem_writeString h
      · exact hcolon d h
      · exact le_of_mem_writeString h
      · exact hcomma d h
      · exact ih h
    · exact hrest

/-- An object of strings is written without control characters. -/
theorem le_of_mem_writeObject {ms : List (Text × Text)} {d : CodePoint} (h : d ∈ writeObject ms) :
    32 ≤ d.toNat := by
  rw [writeObject, List.mem_append, List.mem_cons, List.mem_singleton] at h
  rcases h with (rfl | h) | rfl
  · decide
  · exact le_of_mem_writeMembers h
  · decide

end Json

namespace SavedRule

/-! ## §2 Lines and rules -/

/-- Criteria with the same line are the same, whether their patterns compile or not. -/
theorem encode_injective : Function.Injective encode := by
  intro c c' h
  have hread := read_encode c
  rw [h, read_encode c'] at hread
  have hmembers := Json.Value.obj.inj (Except.ok.inj hread)
  have hcriteria := criteriaOf_members c'
  rw [hmembers, criteriaOf_members c] at hcriteria
  exact Except.ok.inj hcriteria

/-- The line of a rule has no character below the space, and it can always be read: it gives the
rule again, with the same criteria and patterns, nothing unread, and kept for later sessions. So two
rules have the same line exactly if all their criteria are equal. -/
theorem encode_exact (r : Rule) :
    (∀ c ∈ (encode r.criteria).toList, 0x20 ≤ c.toNat) ∧
    decode (encode r.criteria) = .ok { r with transient := false, unread := 0 } ∧
    ∀ other : Rule, encode other.criteria = encode r.criteria ↔ other.criteria = r.criteria := by
  refine ⟨?_, decode_encode r, fun other => encode_injective.eq_iff⟩
  intro c hc
  rw [encode, Text.toList_ofList, encodeChars_eq] at hc
  exact Json.le_of_mem_writeObject hc

end SavedRule

end LogViewer
