import LogViewer.Text.Utf8

/-!
# Texts that have bytes

A text has bytes exactly if it holds no surrogates, and reading the bytes gives the text again. So
bytes are a text exactly if they are the bytes of one, and a row of texts has bytes exactly if each
of them has.

## Main definitions

- `Text.Encodable`: no code point is a surrogate

## Main statements

- `Text.Utf8.encode_eq_ok_iff`: which texts have bytes, and which bytes they have
- `Text.Utf8.decode_eq_ok_iff`: reading is the inverse of writing
- `Text.Utf8.encode_append`: the bytes of two texts
-/

namespace LogViewer.Text

/-! ## §1 Texts without surrogates -/

/-- A text without surrogates. -/
def Encodable (t : Text) : Prop := ∀ c ∈ t.toList, c.isSurrogate = false

instance (t : Text) : Decidable t.Encodable :=
  List.decidableBAll (fun c : CodePoint => c.isSurrogate = false) t.toList

@[simp] theorem encodable_append {a b : Text} : (a ++ b).Encodable ↔ a.Encodable ∧ b.Encodable := by
  simp [Encodable, or_imp, forall_and]

/-- A string has no surrogates. -/
theorem encodable_ofString (s : String) : (ofString s).Encodable := by
  intro c hc
  obtain ⟨d, _, rfl⟩ := List.mem_map.1 hc
  rfl

@[simp] theorem string_ofString (s : String) : (ofString s).string = s := by
  unfold string
  rw [toList_ofString, List.filterMap_map]
  have hchar : CodePoint.char? ∘ CodePoint.char = some := rfl
  rw [hchar, List.filterMap_some, String.ofList_toList]

theorem map_filterMap_char? {l : List CodePoint} (h : ∀ c ∈ l, c.isSurrogate = false) :
    (l.filterMap CodePoint.char?).map CodePoint.char = l := by
  induction l with
  | nil => rfl
  | cons c rest ih =>
    obtain ⟨hc, hrest⟩ := List.forall_mem_cons.1 h
    cases c with
    | char c => exact congrArg (CodePoint.char c :: ·) (ih hrest)
    | surrogate n => cases hc

/-- A text without surrogates is one of a string. -/
theorem Encodable.ofString_string {t : Text} (h : t.Encodable) : ofString t.string = t := by
  apply Text.ext
  rw [toList_ofString, string, String.toList_ofList]
  exact map_filterMap_char? h

theorem string_append (a b : Text) : (a ++ b).string = a.string ++ b.string := by
  unfold string
  rw [toList_append, List.filterMap_append, String.ofList_append]

namespace Utf8

/-! ## §2 Bytes of texts -/

/-- No code point is refused if all surrogates pass. -/
theorem firstRefused?_eq_none_iff {passes : CodePoint → Bool} {position : Nat}
    {l : List CodePoint} :
    firstRefused? passes position l = none ↔ ∀ c ∈ l, c.isSurrogate = true → passes c = true := by
  induction l generalizing position with
  | nil => simp [firstRefused?]
  | cons c rest ih =>
    rw [firstRefused?]
    split
    · next hrefused =>
      simp at hrefused
      simp [hrefused]
    · next hpasses =>
      simp at hpasses
      rw [ih, List.forall_mem_cons]
      exact (and_iff_right hpasses).symm

/-- A text has bytes exactly if it has no surrogates. -/
theorem encode_eq_ok_iff {text : Text} {bytes : ByteArray} :
    encode text = .ok bytes ↔ text.Encodable ∧ bytes = text.string.toUTF8 := by
  have hnone : firstRefused? (fun _ => false) 0 text.toList = none ↔ text.Encodable := by
    simp [firstRefused?_eq_none_iff, Encodable]
  unfold encode
  split
  · next h => simp [hnone.1 h, eq_comm]
  · next e h =>
    have hno : ¬ text.Encodable := fun hall => by simp [hnone.2 hall] at h
    simp [hno]

theorem Encodable.encode {text : Text} (h : text.Encodable) :
    Utf8.encode text = .ok text.string.toUTF8 :=
  encode_eq_ok_iff.2 ⟨h, rfl⟩

/-- A text that has surrogates is refused. -/
theorem exists_encode_error_iff {text : Text} :
    (∃ e, encode text = .error e) ↔ ¬ text.Encodable := by
  constructor
  · rintro ⟨e, he⟩ hall
    rw [Encodable.encode hall] at he
    cases he
  · intro hno
    cases h : encode text with
    | error e => exact ⟨e, rfl⟩
    | ok bytes => exact absurd (encode_eq_ok_iff.1 h).1 hno

/-- Bytes are read as a text exactly if they are its bytes. -/
theorem decode_eq_ok_iff {bytes : ByteArray} {text : Text} :
    decode bytes = .ok text ↔ encode text = .ok bytes := by
  rw [encode_eq_ok_iff]
  unfold decode String.fromUTF8?
  constructor
  · -- Bytes that are read are those of a string, and a string has no surrogates.
    intro h
    split at h
    · next s hs =>
      split at hs
      · cases hs
        cases h
        exact ⟨encodable_ofString _, by rw [string_ofString]; rfl⟩
      · cases hs
    · cases h
  · rintro ⟨hall, rfl⟩
    have hvalid : text.string.toUTF8.IsValidUTF8 := text.string.isValidUTF8
    rw [dif_pos hvalid]
    exact congrArg Except.ok hall.ofString_string

/-- The bytes of two texts one after the other. -/
theorem encode_append {a b : Text} {x y : ByteArray} (ha : encode a = .ok x)
    (hb : encode b = .ok y) : encode (a ++ b) = .ok (x ++ y) := by
  obtain ⟨hall, rfl⟩ := encode_eq_ok_iff.1 ha
  obtain ⟨hall', rfl⟩ := encode_eq_ok_iff.1 hb
  refine encode_eq_ok_iff.2 ⟨encodable_append.2 ⟨hall, hall'⟩, ?_⟩
  rw [string_append]
  exact String.toByteArray_append.symm

end Utf8

end LogViewer.Text
