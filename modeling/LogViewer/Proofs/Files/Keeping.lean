import LogViewer.Proofs.Files.Places

/-!
# What changes of files keep

Making folders, writing a file and moving it keep all folders, so that every path that led somewhere
leads there still. Away from the places that are written, the only thing that can happen is that a
folder is made where there was nothing.

## Main definitions

- `Disk.Keeps`: one tree comes from another by such changes
- `Disk.NewFolders`: where the folders of the second tree come from
- `Disk.OnWay`: the places that a path goes through
- `Disk.WayMade`: a folder that a path goes through was made

## Main statements

- `Disk.Keeps.target`: paths lead where they led before
- `Disk.NewFolders.walk`: steps that could not be walked before go through a folder that was made
- `Disk.Keeps.found_cases`: what a path finds afterwards
- `Disk.keeps_makeFolder`, `Disk.keeps_write`, `Disk.keeps_rename`: what the operations keep
-/

namespace LogViewer.Disk

/-! ## §1 Keeping folders -/

/-- One tree comes from another: the folders are still there, and apart from some places there is
what was there before, or a folder was made where there was nothing. -/
structure Keeps (places : List Place) (made : Place → Prop) (d d' : Disk) : Prop where
  working : d'.working = d.working
  folders : ∀ q, d.entry? q = some .folder → d'.entry? q = some .folder
  entries : ∀ q, q ∉ places → d'.entry? q = d.entry? q ∨
    (made q ∧ d.entry? q = none ∧ d'.entry? q = some .folder)

variable {places : List Place} {made made' : Place → Prop} {d d' d'' : Disk}

namespace Keeps

theorem refl (places : List Place) (made : Place → Prop) (d : Disk) : Keeps places made d d :=
  ⟨rfl, fun _ h => h, fun _ _ => .inl rfl⟩

theorem trans (h : Keeps places made d d') (h' : Keeps places made d' d'') :
    Keeps places made d d'' := by
  refine ⟨h'.working.trans h.working, fun q hq => h'.folders q (h.folders q hq), ?_⟩
  intro q hq
  rcases h.entries q hq with hsame | ⟨hmade, hnone, hfolder⟩
  · rcases h'.entries q hq with hsame' | ⟨hmade, hnone, hfolder⟩
    · exact .inl (hsame'.trans hsame)
    · exact .inr ⟨hmade, hsame.symm.trans hnone, hfolder⟩
  · exact .inr ⟨hmade, hnone, h'.folders q hfolder⟩

theorem mono {places' : List Place} {made' : Place → Prop} (h : Keeps places made d d')
    (hplaces : places ⊆ places') (hmade : ∀ q, made q → made' q) : Keeps places' made' d d' := by
  refine ⟨h.working, h.folders, ?_⟩
  intro q hq
  rcases h.entries q fun hmem => hq (hplaces hmem) with hsame | ⟨hq, hnone, hfolder⟩
  · exact .inl hsame
  · exact .inr ⟨hmade q hq, hnone, hfolder⟩

theorem start (h : Keeps places made d d') (p : Path) : d'.start p = d.start p := by
  unfold Disk.start
  rw [h.working]

theorem place (h : Keeps places made d d') (p : Path) : d'.place p = d.place p := by
  unfold Disk.place
  rw [h.start]

/-! ## §2 Paths lead where they led -/

theorem walk (h : Keeps places made d d') {here q : Place} {steps : List Text}
    (hwalk : d.walk here steps = .ok q) : d'.walk here steps = .ok q := by
  induction steps generalizing here with
  | nil => exact hwalk
  | cons step steps ih =>
    rw [Disk.walk] at hwalk ⊢
    split at hwalk
    · next hdots =>
      rw [if_pos hdots]
      exact ih hwalk
    · next hdots =>
      rw [if_neg hdots]
      split at hwalk
      · cases hwalk
      · next hlimit =>
        rw [if_neg hlimit]
        split at hwalk
        · next hfolder =>
          rw [h.folders _ hfolder]
          exact ih hwalk
        · cases hwalk
        · cases hwalk

end Keeps

/-- A path leads to a name in another tree too, if its parent can be walked there. -/
theorem target_of_walk {p : Path} {folder folder' : Place} {name : Text}
    (h : d.target p = .ok (.named folder name))
    (hwalk : d'.walk (d'.start p) p.parent.steps = .ok folder') :
    d'.target p = .ok (.named folder' name) := by
  unfold target at h ⊢
  split at h
  · cases h
  · next hlimit =>
    rw [if_neg hlimit]
    split at h
    · obtain ⟨q, _, hq⟩ := map_eq_ok_iff.1 h
      cases hq
    · next hnamed =>
      rw [if_neg hnamed, hwalk]
      obtain ⟨q, _, h⟩ := bind_eq_ok_iff.1 h
      refine bind_eq_ok_iff.2 ⟨folder', rfl, ?_⟩
      split at h
      · cases h
      · next hshort =>
        cases h
        rw [if_neg hshort]
        rfl

/-- Paths lead where they led before. -/
theorem Keeps.target (h : Keeps places made d d') {p : Path} {t : Target}
    (htarget : d.target p = .ok t) : d'.target p = .ok t := by
  cases t with
  | named folder name =>
    obtain ⟨_, _, hwalk, _⟩ := target_named htarget
    rw [← h.start p] at hwalk
    exact target_of_walk htarget (h.walk hwalk)
  | folder q =>
    unfold Disk.target at htarget ⊢
    split at htarget
    · cases htarget
    · next hlimit =>
      rw [if_neg hlimit]
      split at htarget
      · next hfolder =>
        obtain ⟨q', hwalk, hq⟩ := map_eq_ok_iff.1 htarget
        rw [if_pos hfolder, h.start, h.walk hwalk, ← hq]
        rfl
      · obtain ⟨q', _, htarget⟩ := bind_eq_ok_iff.1 htarget
        split at htarget
        · cases htarget
        · cases htarget

/-- A path that leads to a folder by its steps alone ends in a double dot, unless it has no steps.
-/
theorem target_folder {p : Path} {q : Place} (h : d.target p = .ok (.folder q)) :
    p.text.byteSize ≤ pathLimit ∧ (p.name = ".." ∨ p.steps = []) := by
  unfold target at h
  split at h
  · cases h
  · next hlimit =>
    refine ⟨Nat.le_of_not_lt hlimit, ?_⟩
    split at h
    · assumption
    · obtain ⟨q', _, h⟩ := bind_eq_ok_iff.1 h
      split at h
      · cases h
      · cases h

/-- A path without steps leads somewhere, if it is not too long. -/
theorem target_of_steps_eq_nil {p : Path} (hlimit : p.text.byteSize ≤ pathLimit)
    (hsteps : p.steps = []) : ∃ q, d.target p = .ok (.folder q) := by
  unfold target
  rw [if_neg (Nat.not_lt.2 hlimit), if_pos (.inr hsteps), hsteps]
  exact ⟨_, rfl⟩

/-- In a tree, a path without double dots leads to what is at its place, if it leads there in some
other tree. -/
theorem target_of_isTree (tree : d.IsTree) {p : Path} {folder : Place} {name : Text} {e : Entry}
    (h : d'.target p = .ok (.named folder name)) (hdots : (".." : Text) ∉ p.steps)
    (hentry : d.entry? (d.place p) = some e) : ∃ folder', d.target p = .ok (.named folder' name) := by
  obtain ⟨hsteps, _, hwalk, _⟩ := target_named h
  have hparent : (".." : Text) ∉ p.parent.steps := fun hmem => hdots (List.dropLast_subset _ hmem)
  have hlimit : ∀ step ∈ p.parent.steps, step.byteSize ≤ stepLimit := by
    intro step hmem
    rcases le_of_walk hwalk step hmem with rfl | hle
    · exact absurd hmem hparent
    · exact hle
  have hplace : d.place p = (d.start p ++ p.parent.steps) ++ [p.name] := by
    unfold place
    rw [goes_of_not_mem hdots, List.append_assoc, ← steps_eq hsteps]
  rw [hplace] at hentry
  have hfolder := tree _ _ _ hentry
  exact ⟨_, target_of_walk h (walk_of_isTree tree hparent hlimit hfolder)⟩

/-! ## §3 The way of a path -/

/-- A place that a path goes through. -/
def OnWay (d : Disk) (p : Path) (q : Place) : Prop :=
  ∃ steps, steps <+: p.steps ∧ q = goes (d.start p) steps

theorem onWay_place (d : Disk) (p : Path) : d.OnWay p (d.place p) :=
  ⟨p.steps, List.prefix_refl _, rfl⟩

theorem OnWay.of_parent {p : Path} {q : Place} (h : d.OnWay p.parent q) : d.OnWay p q := by
  obtain ⟨steps, hbegins, hq⟩ := h
  exact ⟨steps, hbegins.trans (List.dropLast_prefix _), hq⟩

/-- The way to the parent of a path goes through the place of the path only with a double dot. -/
theorem OnWay.mem_of_parent {p : Path} (hsteps : p.steps ≠ []) (h : d.OnWay p.parent (d.place p)) :
    (".." : Text) ∈ p.steps := by
  obtain ⟨steps, hbegins, hq⟩ := h
  refine Classical.byContradiction fun hdots => ?_
  have hparent : (".." : Text) ∉ steps := fun hmem =>
    hdots (List.dropLast_subset _ (hbegins.subset hmem))
  have hstart : d.start p.parent = d.start p := rfl
  rw [place, hstart, goes_of_not_mem hdots, goes_of_not_mem hparent] at hq
  -- The way to the parent is shorter.
  have hlength := congrArg List.length hq
  have hle := hbegins.length_le
  have hshort : p.parent.steps.length = p.steps.length - 1 := List.length_dropLast
  have hpos := List.length_pos_iff.2 hsteps
  simp only [List.length_append] at hlength
  omega

/-- A folder that a path goes through was missing and is there now. -/
def WayMade (d : Disk) (p : Path) (d' : Disk) : Prop :=
  ∃ q, d.OnWay p.parent q ∧ d.entry? q = none ∧ d'.entry? q = some .folder

/-- Every folder was there before, or was made at some place where nothing was. -/
def NewFolders (made : Place → Prop) (d d' : Disk) : Prop :=
  ∀ q, d'.entry? q = some .folder → d.entry? q = some .folder ∨ (made q ∧ d.entry? q = none)

theorem Keeps.newFolders (h : Keeps [] made d d') : d.NewFolders made d' := by
  intro q hq
  rcases h.entries q List.not_mem_nil with hsame | ⟨hmade, hnone, _⟩
  · exact .inl (hsame ▸ hq)
  · exact .inr ⟨hmade, hnone⟩

/-- Nothing changes about it if no further folder appears. -/
theorem NewFolders.trans_of_none (h : d.NewFolders made d')
    (hnone : ∀ q, d''.entry? q = some .folder → d'.entry? q = some .folder) :
    d.NewFolders made d'' :=
  fun q hq => h q (hnone q hq)

/-- Steps that can be walked now could be walked before, or go through a folder that was made. -/
theorem NewFolders.walk (h : d.NewFolders made d') {here q : Place} {steps : List Text}
    (hwalk : d'.walk here steps = .ok q) :
    d.walk here steps = .ok q ∨
      ∃ (begun : List Text) (step : Text), begun ++ [step] <+: steps ∧ step ≠ ".." ∧
        d.entry? (goes here (begun ++ [step])) = none ∧
        d'.entry? (goes here (begun ++ [step])) = some .folder := by
  induction steps generalizing here with
  | nil => exact .inl hwalk
  | cons first rest ih =>
    -- What the rest of the steps goes through, the steps go through.
    have hlater : ∀ {here' : Place}, goes here [first] = here' →
        (∃ (begun : List Text) (step : Text), begun ++ [step] <+: rest ∧ step ≠ ".." ∧
          d.entry? (goes here' (begun ++ [step])) = none ∧
          d'.entry? (goes here' (begun ++ [step])) = some .folder) →
        ∃ (begun : List Text) (step : Text), begun ++ [step] <+: first :: rest ∧ step ≠ ".." ∧
          d.entry? (goes here (begun ++ [step])) = none ∧
          d'.entry? (goes here (begun ++ [step])) = some .folder := by
      rintro _ rfl ⟨begun, step, hbegins, hstep, hnone, hfolder⟩
      exact ⟨first :: begun, step, List.cons_prefix_cons.2 ⟨rfl, hbegins⟩, hstep, hnone, hfolder⟩
    rw [Disk.walk] at hwalk ⊢
    split at hwalk
    · next hdots =>
      rw [if_pos hdots]
      exact (ih hwalk).imp_right (hlater (if_pos hdots))
    · next hdots =>
      rw [if_neg hdots]
      split at hwalk
      · cases hwalk
      · next hlimit =>
        rw [if_neg hlimit]
        split at hwalk
        · next hfolder =>
          rcases h _ hfolder with hbefore | ⟨_, hnone⟩
          · rw [hbefore]
            exact (ih hwalk).imp_right (hlater (if_neg hdots))
          · have hgoes : goes here [first] = here ++ [first] := if_neg hdots
            refine .inr ⟨[], first, List.cons_prefix_cons.2 ⟨rfl, List.nil_prefix⟩, hdots, ?_, ?_⟩
            · rwa [List.nil_append, hgoes]
            · rwa [List.nil_append, hgoes]
        · cases hwalk
        · cases hwalk

/-- A path that leads somewhere only now goes through a folder that was made. -/
theorem NewFolders.wayMade (h : d.NewFolders made d') (hkeeps : Keeps places made' d d') {p : Path}
    {t : Target} {fault : FileFault} (hbefore : d.target p = .error fault)
    (hafter : d'.target p = .ok t) : d.WayMade p d' := by
  have hstart := hkeeps.start p
  cases t with
  | named folder name =>
    obtain ⟨hsteps, hname, hwalk, _⟩ := target_named hafter
    rw [hstart] at hwalk
    rcases h.walk hwalk with hwalk | ⟨begun, step, hbegins, _, hnone, hfolder⟩
    · rw [target_of_walk hafter hwalk] at hbefore
      cases hbefore
    · exact ⟨_, ⟨_, hbegins, rfl⟩, hnone, hfolder⟩
  | folder q =>
    obtain ⟨hlimit, hsteps⟩ := target_folder hafter
    have htarget : ∀ d : Disk, d.target p = (d.walk (d.start p) p.steps).map .folder := by
      intro d
      unfold target
      rw [if_neg (Nat.not_lt.2 hlimit), if_pos hsteps]
    rw [htarget] at hbefore hafter
    obtain ⟨q', hwalk, -⟩ := map_eq_ok_iff.1 hafter
    rw [hstart] at hwalk
    rcases h.walk hwalk with hwalk | ⟨begun, step, hbegins, hstep, hnone, hfolder⟩
    · rw [hwalk] at hbefore
      cases hbefore
    · have hne : p.steps ≠ [] := by
        intro hnil
        rw [hnil, List.prefix_nil] at hbegins
        simp at hbegins
      have hdots : p.name = ".." := hsteps.resolve_right hne
      -- The last step is a double dot, so that the folder is on the way to the parent.
      rw [steps_eq hne, hdots, List.prefix_concat_iff] at hbegins
      rcases hbegins with heq | hbegins
      · exact absurd (List.append_inj' heq rfl).2 (by simpa using hstep)
      · exact ⟨_, ⟨_, hbegins, rfl⟩, hnone, hfolder⟩

/-! ## §4 What is found -/

/-- What a path finds afterwards: what it found before, or what is at its place, where it found what
was there before. A path with a double dot may also lead somewhere for the first time, through a
folder that was made. -/
theorem Keeps.found_cases (tree : d.IsTree) (h : Keeps places made d d')
    (hnew : d.NewFolders made' d') (p : Path) :
    d'.found p = d.found p ∨
    (p.steps ≠ [] ∧ d.found p = d.entry? (d.place p) ∧ d'.found p = d'.entry? (d.place p)) ∨
    ((".." : Text) ∈ p.steps ∧ d.found p = none ∧ d.WayMade p d' ∧
      (d'.found p = some .folder ∨ d'.found p = d'.entry? (d.place p))) := by
  cases hbefore : d.target p with
  | ok t =>
    have hafter := h.target hbefore
    cases t with
    | folder q =>
      left
      rw [found_of_folder hbefore, found_of_folder hafter]
    | named folder name =>
      right
      left
      rw [found_of_named hbefore, found_of_named hafter, h.place]
      exact ⟨(target_named hbefore).1, rfl, rfl⟩
  | error fault =>
    -- The path led nowhere before, and may do so now.
    rw [found_of_error hbefore]
    cases hafter : d'.target p with
    | error fault' => exact .inl (found_of_error hafter)
    | ok t =>
      have hmade := hnew.wayMade h hbefore hafter
      cases t with
      | folder q =>
        obtain ⟨hlimit, hname | hsteps⟩ := target_folder hafter
        · have hne : p.steps ≠ [] := by
            intro hnil
            rw [Path.name, hnil] at hname
            exact absurd hname (by decide)
          have hdots : (".." : Text) ∈ p.steps := by
            rw [steps_eq hne, ← hname]
            simp
          exact .inr (.inr ⟨hdots, rfl, hmade, .inl (found_of_folder hafter)⟩)
        · obtain ⟨q', hq'⟩ := target_of_steps_eq_nil (d := d) hlimit hsteps
          rw [hbefore] at hq'
          cases hq'
      | named folder name =>
        have hfound : d'.found p = d'.entry? (d.place p) := by
          rw [found_of_named hafter, h.place]
        by_cases hdots : (".." : Text) ∈ p.steps
        · exact .inr (.inr ⟨hdots, rfl, hmade, .inr hfound⟩)
        · -- Nothing was there before, or the path had led there.
          cases hentry : d.entry? (d.place p) with
          | none => exact .inr (.inl ⟨(target_named hafter).1, rfl, hfound⟩)
          | some e =>
            obtain ⟨folder', hfolder'⟩ := target_of_isTree tree hafter hdots hentry
            rw [hbefore] at hfolder'
            cases hfolder'

/-! ## §5 What the operations keep -/

theorem keeps_makeFolder {p : Path} (h : d.makeFolder p = .ok d') :
    Keeps [] (· = d.place p) d d' := by
  obtain ⟨hne, hnone, rfl⟩ := makeFolder_eq_ok h
  refine ⟨rfl, ?_, ?_⟩
  · intro q hq
    rw [entry?_put d hne]
    split
    · rfl
    · exact hq
  · intro q _
    rw [entry?_put d hne]
    split
    · next hplace =>
      subst hplace
      exact .inr ⟨rfl, hnone, rfl⟩
    · exact .inl rfl

theorem keeps_write {p : Path} {content : ByteArray} (h : d.write p content = .ok d') :
    Keeps [d.place p] made d d' ∧ d'.entry? (d.place p) = some (.file content) := by
  obtain ⟨folder, name, htarget, hfree, rfl⟩ := write_eq_ok h
  have hne : d.place p ≠ [] := by
    rw [(target_named htarget).2.2.2]
    simp
  refine ⟨⟨rfl, ?_, ?_⟩, ?_⟩
  · intro q hq
    have hother : q ≠ d.place p := by
      rintro rfl
      exact hfree hq
    rwa [entry?_put d hne, if_neg hother]
  · intro q hq
    rw [entry?_put d hne, if_neg fun heq => hq (by simp [heq])]
    exact .inl rfl
  · rw [entry?_put d hne, if_pos rfl]

/-- No folder appears when a file is written. -/
theorem folder_of_write {p : Path} {content : ByteArray} (h : d.write p content = .ok d') (q : Place)
    (hq : d'.entry? q = some .folder) : d.entry? q = some .folder := by
  obtain ⟨folder, name, htarget, _, rfl⟩ := write_eq_ok h
  have hne : d.place p ≠ [] := by
    rw [(target_named htarget).2.2.2]
    simp
  rw [entry?_put d hne] at hq
  split at hq
  · cases hq
  · exact hq

/-- No folder appears when a file is moved. -/
theorem folder_of_rename {source goal : Path} {content : ByteArray}
    (h : d.rename source goal = .ok d') (hfile : d.entry? (d.place source) = some (.file content))
    (q : Place) (hq : d'.entry? q = some .folder) : d.entry? q = some .folder := by
  obtain ⟨folder, name, e, htarget, he, _, rfl⟩ := rename_eq_ok h
  rw [hfile] at he
  cases he
  have hgoal : d.place goal ≠ [] := by
    rw [(target_named htarget).2.2.2]
    simp
  have hsource : d.place source ≠ [] := by
    intro hroot
    rw [hroot] at hfile
    cases hfile
  rw [entry?_put _ hgoal, entry?_erase d hsource] at hq
  split at hq
  · cases hq
  · split at hq
    · cases hq
    · exact hq

/-- Moving a file keeps all folders, and the path that it is moved to finds it. -/
theorem keeps_rename {source goal : Path} {content : ByteArray} (h : d.rename source goal = .ok d')
    (hsource : source.steps ≠ [] ∧ source.name ≠ "..")
    (hfile : d.entry? (d.place source) = some (.file content)) :
    Keeps [d.place source, d.place goal] made d d' ∧
      d'.found goal = some (.file content) := by
  obtain ⟨folder, name, e, htarget, he, hfree, rfl⟩ := rename_eq_ok h
  rw [hfile] at he
  cases he
  have hgoal : d.place goal ≠ [] := by
    rw [(target_named htarget).2.2.2]
    simp
  have hne : d.place source ≠ [] := by
    rw [place_eq hsource.1 hsource.2]
    simp
  -- What is at each place after the file has left one and come to the other.
  have hentry : ∀ q, entry? ((d.erase (d.place source)).put (d.place goal) (.file content)) q
      = if q = d.place goal then some (.file content)
        else if q = d.place source then none else d.entry? q := by
    intro q
    rw [entry?_put _ hgoal, entry?_erase d hne]
  have hkeeps : Keeps [d.place source, d.place goal] made d
      ((d.erase (d.place source)).put (d.place goal) (.file content)) := by
    refine ⟨rfl, ?_, ?_⟩
    · intro q hq
      have hother : q ≠ d.place goal := by
        rintro rfl
        exact hfree hq
      have hother' : q ≠ d.place source := by
        rintro rfl
        rw [hfile] at hq
        cases hq
      rwa [hentry, if_neg hother, if_neg hother']
    · intro q hq
      have hother : q ≠ d.place goal := fun heq => hq (by simp [heq])
      have hother' : q ≠ d.place source := fun heq => hq (by simp [heq])
      rw [hentry, if_neg hother, if_neg hother']
      exact .inl rfl
  refine ⟨hkeeps, ?_⟩
  rw [found_of_named (hkeeps.target htarget), hkeeps.place, hentry, if_pos rfl]

end LogViewer.Disk
