import LogViewer.Proofs.Files.Keeping
import LogViewer.Proofs.SavedRules.Reload
import LogViewer.Proofs.Text.Encoding
import LogViewer.Storage

/-!
# Saving that is interrupted

Saving calls the system several times, and each call may be refused, whether or not anything stands
in its way: a folder is not made, the temporary file is not written or only in part, or it is not
moved. Only the last call touches the file, and it puts all of the new content there at once. So the
file is what it was or holds the new content, whichever call is refused.

Making the folders above a file may have one more effect on a path with a double dot: the path may
lead somewhere for the first time, to what is at its place already or to a folder that it goes
through.

## Main definitions

- `Called`, `FolderMade`, `FoldersMade`, `Written`: what the calls of the system come to
- `Saves`: the ways in which saving can go
- `present`: what is at the path of a file
- `Holds`: a file has the bytes of a text
- `AllOrNothing`: what holds after saving, completed or not

## Main statements

- `saves_save`: saving goes one of these ways
- `Saves.cases`: saving is completed, or only the temporary file has been touched
- `present_of_keeps`: what is at the path afterwards
- `save_allOrNothing`: the file is what it was or holds the new content
-/

namespace LogViewer

namespace RuleFile

/-! ## §1 Calls that may be refused -/

/-- A call of the system does what it is for, or it is refused and has changed nothing. -/
inductive Called (d : Disk) (call : Except FileFault Disk) : Disk → Bool → Prop
  | done {d' : Disk} : call = .ok d' → Called d call d' true
  | refused : Called d call d false

/-- A folder is made, or it is there already, or there is none. -/
inductive FolderMade (d : Disk) (p : Path) : Disk → Bool → Prop
  | called {d' : Disk} {done : Bool} : Called d (d.makeFolder p) d' done → FolderMade d p d' done
  | there : d.isFolder p = true → FolderMade d p d true

/-- A folder is made after those that it is in, as far as they can be made. -/
inductive FoldersMade : Disk → Path → Disk → Bool → Prop
  | last {d d' : Disk} {p : Path} {done : Bool} :
      FolderMade d p d' done → FoldersMade d p d' done
  | above {d d₁ d₂ : Disk} {p : Path} {done : Bool} :
      p.steps ≠ [] → FoldersMade d p.parent d₁ true → FolderMade d₁ p d₂ done →
      FoldersMade d p d₂ done
  | aboveRefused {d d' : Disk} {p : Path} :
      p.steps ≠ [] → FoldersMade d p.parent d' false → FoldersMade d p d' false

/-- A file is written, or nothing happens, or something else than the whole content is in it when
the writing is broken off. -/
inductive Written (d : Disk) (p : Path) (content : ByteArray) : Disk → Bool → Prop
  | called {d' : Disk} {done : Bool} :
      Called d (d.write p content) d' done → Written d p content d' done
  | partly {d' : Disk} {part : ByteArray} : d.write p part = .ok d' → Written d p content d' false

/-- The ways in which saving a text can go, and whether it is completed. -/
inductive Saves (d : Disk) (p : Path) (text : Text) : Disk → Bool → Prop
  /-- No folder can have this path. -/
  | impossible {fault : Path.Fault} : p.parent.fault? = some fault → Saves d p text d false
  | noFolders {d' : Disk} : FoldersMade d p.parent d' false → Saves d p text d' false
  /-- No file can have this path. -/
  | noFile {d' : Disk} :
      FoldersMade d p.parent d' true → p.name.isEmpty = true ∨ p.fault? ≠ none →
      Saves d p text d' false
  /-- Whatever was to be written, it is not there, or only in part. -/
  | unwritten {d₁ d₂ : Disk} (content : ByteArray) :
      FoldersMade d p.parent d₁ true → p.name.isEmpty = false → p.fault? = none →
      Written d₁ (temporary p) content d₂ false → Saves d p text d₂ false
  | written {d₁ d₂ d₃ : Disk} {content : ByteArray} {done : Bool} :
      FoldersMade d p.parent d₁ true → p.name.isEmpty = false → p.fault? = none →
      Text.Utf8.encode (RuleFile.written text) = .ok content →
      Written d₁ (temporary p) content d₂ true →
      Called d₂ (d₂.rename (temporary p) p) d₃ done → Saves d p text d₃ done

/-! ## §2 Saving is one of these ways -/

/-- A refusal to make a folder counts for nothing if the folder is there. -/
theorem folderMade_refusedFolder (d : Disk) (p : Path) (fault : FileFault) :
    FolderMade d p d (d.refusedFolder p fault).isOk := by
  unfold Disk.refusedFolder
  split
  · next hthere => exact .there hthere
  · exact .called .refused

theorem folderMade_ensureFolder (d : Disk) (p : Path) :
    FolderMade d p (d.ensureFolder p).1 (d.ensureFolder p).2.isOk := by
  unfold Disk.ensureFolder
  cases hmake : d.makeFolder p with
  | ok d' => exact .called (.done hmake)
  | error fault => exact folderMade_refusedFolder d p fault

theorem foldersMade_makeFolders (d : Disk) (p : Path) :
    FoldersMade d p (d.makeFolders p).1 (d.makeFolders p).2.isOk := by
  -- The recursion goes from a path to its parent.
  induction p using Disk.makeFolders.induct d with
  | case1 p d' hmake =>
    rw [Disk.makeFolders, hmake]
    exact .last (.called (.done hmake))
  | case2 p hmake hsteps =>
    rw [Disk.makeFolders, hmake]
    dsimp only
    rw [dif_pos hsteps]
    exact .last (folderMade_refusedFolder d p .notFound)
  | case3 p hmake hsteps d₁ habove ih =>
    rw [Disk.makeFolders, hmake]
    dsimp only
    rw [dif_neg hsteps, habove]
    rw [habove] at ih
    exact .above hsteps ih (folderMade_ensureFolder d₁ p)
  | case4 p hmake hsteps d₁ e habove ih =>
    rw [Disk.makeFolders, hmake]
    dsimp only
    rw [dif_neg hsteps, habove]
    rw [habove] at ih
    exact .aboveRefused hsteps ih
  | case5 p fault hfault hmake =>
    rw [Disk.makeFolders, hmake]
    cases fault with
    | notFound => exact absurd rfl hfault
    | _ => exact .last (folderMade_refusedFolder d p _)

/-- Writing the temporary file and moving it, once the folders are there. -/
theorem saves_replace {d d₁ : Disk} {p : Path} (text : Text)
    (hmade : FoldersMade d p.parent d₁ true)
    (hname : p.name.isEmpty = false) (hpath : p.fault? = none) :
    Saves d p text (replace d₁ p text).1 (replace d₁ p text).2.isOk := by
  unfold replace writeTemporary
  dsimp only
  cases hencode : Text.Utf8.encode (RuleFile.written text) with
  | error e =>
    -- The temporary file is opened, and stays empty.
    dsimp only [Except.toOption, Option.getD]
    cases hwrite : d₁.write (temporary p) .empty with
    | error fault => exact .unwritten .empty hmade hname hpath (.called .refused)
    | ok d₂ => exact .unwritten .empty hmade hname hpath (.partly hwrite)
  | ok content =>
    dsimp only [Except.toOption, Option.getD]
    cases hwrite : d₁.write (temporary p) content with
    | error fault =>
      exact .unwritten content hmade hname hpath (.called .refused)
    | ok d₂ =>
      have hwritten : Written d₁ (temporary p) content d₂ true := .called (.done hwrite)
      dsimp only [Except.map, Except.mapError]
      cases hrename : d₂.rename (temporary p) p with
      | error fault => exact .written hmade hname hpath hencode hwritten .refused
      | ok d₃ => exact .written hmade hname hpath hencode hwritten (.done hrename)

/-- Saving, as it is, is one of the ways in which it can go. -/
theorem saves_save (d : Disk) (p : Path) (text : Text) :
    Saves d p text (save d p text).1 (save d p text).2.isOk := by
  have hmade := foldersMade_makeFolders d p.parent
  unfold save
  split
  · next hfault => exact .impossible hfault
  · split
    · next d₁ e habove =>
      rw [habove] at hmade
      exact .noFolders hmade
    · next d₁ habove =>
      rw [habove] at hmade
      split
      · next hname => exact .noFile hmade (.inl hname)
      · next hname =>
        split
        · next hfault => exact .noFile hmade (.inr (by simp [hfault]))
        · next hpath => exact saves_replace text hmade (by simpa using hname) hpath

/-! ## §3 What the calls keep -/

variable {d d' : Disk} {p : Path} {text : Text} {content : ByteArray} {done : Bool}

theorem FolderMade.keeps (h : FolderMade d p d' done) : d.Keeps [] (· = d.place p) d' := by
  cases h with
  | there _ => exact .refl ..
  | called hcalled =>
    cases hcalled with
    | done hmake => exact Disk.keeps_makeFolder hmake
    | refused => exact .refl ..

/-- Folders are made on the way to the last of them. -/
theorem FoldersMade.keeps (h : FoldersMade d p d' done) : d.Keeps [] (d.OnWay p) d' := by
  -- The way to the parent is part of the way.
  induction h with
  | last hmade =>
    exact hmade.keeps.mono (fun _ hq => hq) fun _ hq => hq ▸ Disk.onWay_place ..
  | above _ _ hmade ih =>
    have habove := ih.mono (fun _ hq => hq) fun _ => Disk.OnWay.of_parent
    refine habove.trans (hmade.keeps.mono (fun _ hq => hq) ?_)
    rintro _ rfl
    rw [ih.place]
    exact Disk.onWay_place ..
  | aboveRefused _ _ ih => exact ih.mono (fun _ hq => hq) fun _ => Disk.OnWay.of_parent

/-- A file that is written completely is there. -/
theorem Written.keeps {made : Place → Prop} (h : Written d p content d' done) :
    d.Keeps [d.place p] made d' ∧
      (done = true → d'.entry? (d.place p) = some (.file content)) := by
  cases h with
  | partly hwrite => exact ⟨(Disk.keeps_write hwrite).1, nofun⟩
  | called hcalled =>
    cases hcalled with
    | done hwrite => exact (Disk.keeps_write hwrite).imp_right fun hentry _ => hentry
    | refused => exact ⟨.refl .., nofun⟩

/-- The temporary file is beside the file. -/
@[simp] theorem parent_temporary (p : Path) : (temporary p).parent = p.parent := by
  simp [temporary, Path.sibling, Path.child, Path.parent]

@[simp] theorem name_temporary (p : Path) : (temporary p).name = p.name ++ ".tmp" := by
  simp [temporary, Path.sibling, Path.child, Path.name]

theorem length_name_temporary (p : Path) : (temporary p).name.length = p.name.length + 4 := by
  rw [name_temporary, Text.length_append]
  rfl

/-- The temporary file has a name of its own. -/
theorem temporary_named (p : Path) : (temporary p).steps ≠ [] ∧ (temporary p).name ≠ ".." := by
  refine ⟨by simp [temporary, Path.sibling, Path.child], fun hdots => ?_⟩
  have hlength := length_name_temporary p
  rw [hdots] at hlength
  have hshort : Text.length ".." = 2 := rfl
  omega

/-- The temporary file is never the file itself. -/
theorem place_temporary_ne (d : Disk) (p : Path) : d.place (temporary p) ≠ d.place p := by
  rw [Disk.place_eq (temporary_named p).1 (temporary_named p).2, parent_temporary]
  intro heq
  -- A path that ends in its folder or above it is shorter, any other has another name.
  have hlength := congrArg List.length heq
  by_cases hsteps : p.steps = []
  · rw [Disk.place_of_steps_eq_nil d hsteps] at hlength
    simp at hlength
  · rw [Disk.place_eq_ite d hsteps] at heq hlength
    split at heq
    · next hdots =>
      rw [if_pos hdots] at hlength
      simp at hlength
      omega
    · have hname := List.append_cancel_left heq
      have hlonger := length_name_temporary p
      rw [List.singleton_inj.1 hname] at hlonger
      omega

/-- No folder appears when a file is written, or is not. -/
theorem Written.folder (h : Written d p content d' done) (q : Place)
    (hq : d'.entry? q = some .folder) : d.entry? q = some .folder := by
  cases h with
  | partly hwrite => exact Disk.folder_of_write hwrite q hq
  | called hcalled =>
    cases hcalled with
    | done hwrite => exact Disk.folder_of_write hwrite q hq
    | refused => exact hq

/-- A file is written once folders were made. -/
theorem FoldersMade.keeps_written {above : Path} {d₁ : Disk} {done₁ : Bool}
    (hmade : FoldersMade d above d₁ done₁) (hwritten : Written d₁ p content d' done) :
    d.Keeps [d.place p] (d.OnWay above) d' ∧
      (done = true → d'.entry? (d.place p) = some (.file content)) := by
  have hplace : d₁.place p = d.place p := hmade.keeps.place p
  rw [← hplace]
  obtain ⟨hkeeps, hentry⟩ := hwritten.keeps
  exact ⟨(hmade.keeps.mono (List.nil_subset _) fun _ hq => hq).trans hkeeps, hentry⟩

/-- Saving is completed, or nothing but the temporary file was touched and folders were made. -/
theorem Saves.cases (h : Saves d p text d' done) :
    (done = false ∧ d.Keeps [d.place (temporary p)] (d.OnWay p.parent) d') ∨
    (done = true ∧ p.fault? = none ∧
      d.Keeps [d.place (temporary p), d.place p] (d.OnWay p.parent) d' ∧
      ∃ content, Text.Utf8.encode (RuleFile.written text) = .ok content ∧
        d'.found p = some (.file content)) := by
  have hfolders : ∀ {d' done}, FoldersMade d p.parent d' done →
      d.Keeps [d.place (temporary p)] (d.OnWay p.parent) d' :=
    fun hmade => hmade.keeps.mono (List.nil_subset _) fun _ hq => hq
  cases h with
  | impossible _ => exact .inl ⟨rfl, .refl ..⟩
  | noFolders hmade => exact .inl ⟨rfl, hfolders hmade⟩
  | noFile hmade _ => exact .inl ⟨rfl, hfolders hmade⟩
  | unwritten _ hmade _ _ hwritten => exact .inl ⟨rfl, (hmade.keeps_written hwritten).1⟩
  | written hmade _ hpath hencode hwritten hrenamed =>
    obtain ⟨hkeeps, hentry⟩ := hmade.keeps_written hwritten
    -- Up to here only the temporary file was touched.
    cases hrenamed with
    | refused => exact .inl ⟨rfl, hkeeps⟩
    | done hrename =>
      have hsource := hkeeps.place (temporary p)
      obtain ⟨hkeeps', hfound⟩ := Disk.keeps_rename hrename (temporary_named p) (by
        rw [hsource]
        exact hentry rfl)
      rw [hsource, hkeeps.place] at hkeeps'
      have hkeeps := hkeeps.mono (List.subset_append_left _ [d.place p]) fun _ hq => hq
      exact .inr ⟨rfl, hpath, hkeeps.trans hkeeps', _, hencode, hfound⟩

/-- Saving makes no folders but those on the way to the parent. -/
theorem Saves.newFolders (h : Saves d p text d' done) : d.NewFolders (d.OnWay p.parent) d' := by
  have hfolders : ∀ {d' done}, FoldersMade d p.parent d' done →
      d.NewFolders (d.OnWay p.parent) d' :=
    fun hmade => hmade.keeps.newFolders
  cases h with
  | impossible _ => exact fun q hq => .inl hq
  | noFolders hmade => exact hfolders hmade
  | noFile hmade _ => exact hfolders hmade
  | unwritten _ hmade _ _ hwritten => exact (hfolders hmade).trans_of_none hwritten.folder
  | written hmade _ _ _ hwritten hrenamed =>
    have hnew := (hfolders hmade).trans_of_none hwritten.folder
    cases hrenamed with
    | refused => exact hnew
    | done hrename =>
      obtain ⟨hkeeps, hentry⟩ := hmade.keeps_written hwritten
      have hfile := hentry rfl
      rw [← hkeeps.place] at hfile
      exact hnew.trans_of_none (Disk.folder_of_rename hrename hfile)

/-! ## §4 What is at the path -/

/-- What is at the path of a file. Nothing can be at a path that no file can have. -/
def present (d : Disk) (p : Path) : Option Entry :=
  if p.fault? = none then d.found p else none

/-- The file at the path has the bytes of what is written for a text. -/
def Holds (d : Disk) (p : Path) (text : Text) : Prop :=
  ∃ content, Text.Utf8.encode (RuleFile.written text) = .ok content ∧
    present d p = some (.file content)

/-- What is at the path is what was there, while nothing but the temporary file was touched. Only a
path with a double dot, which led nowhere as a folder on its way was missing, may lead somewhere
now. -/
theorem present_of_keeps (tree : d.IsTree)
    (h : d.Keeps [d.place (temporary p)] (d.OnWay p.parent) d')
    (hnew : d.NewFolders (d.OnWay p.parent) d') :
    present d' p = present d p ∨
    ((".." : Text) ∈ p.steps ∧ present d p = none ∧ d.WayMade p d' ∧
      (present d' p = d.entry? (d.place p) ∨ present d' p = some .folder)) := by
  unfold present
  split
  case isFalse => exact .inl rfl
  -- At the place itself nothing happened, unless the way to the parent goes through it.
  have hplace := h.entries (d.place p) (by simpa using (place_temporary_ne d p).symm)
  rcases h.found_cases tree hnew p with
    hsame | ⟨hsteps, hbefore, hafter⟩ | ⟨hdots, hbefore, hmade, hafter⟩
  · exact .inl hsame
  · rw [hbefore, hafter]
    rcases hplace with hsame | ⟨hway, hnone, hfolder⟩
    · exact .inl hsame
    · exact .inr ⟨hway.mem_of_parent hsteps, hnone, ⟨_, hway, hnone, hfolder⟩, .inr hfolder⟩
  · rw [hbefore]
    rcases hafter with hfolder | hafter
    · exact .inr ⟨hdots, rfl, hmade, .inr hfolder⟩
    · rw [hafter]
      rcases hplace with hsame | ⟨_, _, hfolder⟩
      · exact .inr ⟨hdots, rfl, hmade, .inl hsame⟩
      · exact .inr ⟨hdots, rfl, hmade, .inr hfolder⟩

/-- The saved text is loaded as it was saved, as it holds no carriage return. -/
theorem Holds.load (hcr : ('\r' : CodePoint) ∉ text.toList) (hallowed : d.allow .read p = .ok ())
    (h : Holds d p text) : load d p = ⟨[], .ok (RuleFile.written text)⟩ := by
  obtain ⟨content, hencode, hpresent⟩ := h
  unfold present at hpresent
  unfold RuleFile.load
  split at hpresent
  · next hpath =>
    -- Reading would only change carriage returns.
    have hunified : ('\r' : CodePoint) ∉ (RuleFile.written text).toList := by
      unfold RuleFile.written
      split
      · simp
      · simp [hcr]
    rw [hpath, Disk.read_of_found hallowed hpresent]
    simp only [textOf, Text.Utf8.decode_eq_ok_iff.2 hencode]
    rw [Text.newlinesUnified_of_not_mem hunified, Text.ofList_toList]
  · cases hpresent

/-! ## §5 All or nothing -/

/-- What holds after a text was saved, or was not, whatever happened on the way. -/
structure AllOrNothing (d : Disk) (p : Path) (text : Text) (d' : Disk) (done : Bool) : Prop where
  /-- The path leads to what it led to or to the new content. Only if it has a double dot and led
  nowhere, and a folder that it goes through was missing and was made, it may also lead to what was
  at its place already or to a folder. -/
  atPath : present d' p = present d p ∨ Holds d' p text ∨
    ((".." : Text) ∈ p.steps ∧ present d p = none ∧ d.WayMade p d' ∧
      (present d' p = d.entry? (d.place p) ∨ present d' p = some .folder))
  completed : done = true → Holds d' p text
  /-- The new content loads, unless the system refuses to read it. -/
  loaded : d'.allow .read p = .ok () → Holds d' p text →
    (Storage.file p).load d' = ⟨[], .ok (if text.isEmpty then "" else text ++ "\n")⟩
  /-- Elsewhere nothing happens but that folders are made. -/
  elsewhere : ∀ q, q ≠ d.place p → q ≠ d.place (temporary p) →
    d'.entry? q = d.entry? q ∨ (d.entry? q = none ∧ d'.entry? q = some .folder)
  folders : ∀ q, d.entry? q = some .folder → d'.entry? q = some .folder

theorem Saves.allOrNothing (tree : d.IsTree) (hcr : ('\r' : CodePoint) ∉ text.toList)
    (h : Saves d p text d' done) : AllOrNothing d p text d' done := by
  have hnew := h.newFolders
  rcases h.cases with ⟨rfl, hkeeps⟩ | ⟨rfl, hpath, hkeeps, content, hencode, hfound⟩
  · refine ⟨?_, nofun, Holds.load hcr, ?_, hkeeps.folders⟩
    · exact (present_of_keeps tree hkeeps hnew).imp_right .inr
    · intro q _ htemporary
      exact (hkeeps.entries q (by simpa using htemporary)).imp_right And.right
  · have hholds : Holds d' p text := ⟨content, hencode, by rw [present, if_pos hpath, hfound]⟩
    refine ⟨.inr (.inl hholds), fun _ => hholds, Holds.load hcr, ?_, hkeeps.folders⟩
    intro q hplace htemporary
    exact (hkeeps.entries q (by simp [hplace, htemporary])).imp_right And.right

/-- What saving in a file comes to: it is completed exactly if nothing is complained of. -/
theorem storage_save (d : Disk) (p : Path) (text : Text) :
    ((Storage.file p).save d text).disk = (save d p text).1 ∧
    ((save d p text).2.isOk = true ↔ ((Storage.file p).save d text).warnings = [] ∧
      ((Storage.file p).save d text).result = .ok ()) := by
  simp only [Storage.save]
  generalize save d p text = saved
  obtain ⟨d', fault | _⟩ := saved
  · cases fault <;> simp [Except.isOk, Except.toBool]
  · simp [Except.isOk, Except.toBool]

/-- Saving is all or nothing: whichever call of the system is refused, the file is what it was or
holds the new text, which loads again, and no other file but the temporary one is touched. -/
theorem save_allOrNothing :
    (∀ s : RuleSet, ('\r' : CodePoint) ∉ (SavedRules.exportRules s).toList) ∧
    ∀ (d : Disk) (p : Path) (text : Text), d.IsTree → ('\r' : CodePoint) ∉ text.toList →
      (∃ done, Saves d p text ((Storage.file p).save d text).disk done ∧
        (done = true ↔ ((Storage.file p).save d text).warnings = [] ∧
          ((Storage.file p).save d text).result = .ok ())) ∧
      ∀ d' done, Saves d p text d' done → AllOrNothing d p text d' done := by
  refine ⟨fun s => SavedRules.not_mem_encodeAll s.persistent, ?_⟩
  intro d p text tree hcr
  obtain ⟨hdisk, hcompleted⟩ := storage_save d p text
  refine ⟨⟨(save d p text).2.isOk, ?_, hcompleted⟩, fun d' done h => h.allOrNothing tree hcr⟩
  rw [hdisk]
  exact saves_save d p text

/-- Saving may be broken off while the temporary file is written. -/
theorem save_allOrNothing_cutShort :
    Disk.IsTree .empty ∧ ('\r' : CodePoint) ∉ Text.toList "x" ∧
    Saves .empty (.ofText "filters.jsonl") "x"
      ⟨[(["filters.jsonl.tmp"], .file .empty)], [], []⟩ false ∧
    AllOrNothing .empty (.ofText "filters.jsonl") "x"
      ⟨[(["filters.jsonl.tmp"], .file .empty)], [], []⟩ false := by
  have hcr : ('\r' : CodePoint) ∉ (Text.toList "x") := by decide
  have hpart : Disk.write .empty (temporary (.ofText "filters.jsonl")) .empty
      = .ok ⟨[(["filters.jsonl.tmp"], .file .empty)], [], []⟩ := by rfl
  have hsaves : Saves .empty (.ofText "filters.jsonl") "x"
      ⟨[(["filters.jsonl.tmp"], .file .empty)], [], []⟩ false :=
    .unwritten .empty (.last (.there (by decide))) (by decide) (by decide) (.partly hpart)
  exact ⟨Disk.isTree_empty, hcr, hsaves,
    (save_allOrNothing.2 .empty _ "x" Disk.isTree_empty hcr).2 _ false hsaves⟩

/-- A path that goes through a folder and back to it. -/
def roundabout : Path := .ofText "f/../f"

/-- Saving may leave a folder where nothing was before, as a path may go through that folder. -/
theorem save_roundabout :
    Disk.IsTree .empty ∧ ('\r' : CodePoint) ∉ Text.toList "t" ∧
    present .empty roundabout = none ∧
    present ((Storage.file roundabout).save .empty "t").disk roundabout = some .folder ∧
    ¬ Holds ((Storage.file roundabout).save .empty "t").disk roundabout "t" := by
  have hpath : roundabout.fault? = none := by decide
  have hsaved : ((Storage.file roundabout).save .empty "t").disk
      = ⟨[(["f.tmp"], .file (Text.string "t\n").toUTF8), (["f"], .folder)], [], []⟩ := by
    rw [(storage_save .empty roundabout "t").1]
    decide +kernel
  have hfolder : present ((Storage.file roundabout).save .empty "t").disk roundabout
      = some .folder := by
    rw [hsaved, present, if_pos hpath]
    decide +kernel
  refine ⟨Disk.isTree_empty, by decide, ?_, hfolder, ?_⟩
  · rw [present, if_pos hpath]
    decide +kernel
  · rintro ⟨content, -, hfile⟩
    rw [hfolder] at hfile
    cases hfile

end RuleFile

end LogViewer
