import LogViewer.Files.Disk
import LogViewer.Proofs.Lists
import LogViewer.Proofs.Outcomes

/-!
# Where paths lead

A path leads to a place by its steps alone: a double dot goes one step back, every other step goes
one on. The system refuses a path whose steps do not go from folder to folder, but never takes it
elsewhere.

## Main definitions

- `Disk.goes`, `Disk.place`: where some steps, and a path, lead
- `Disk.found`: what is at the end of a path
- `Disk.IsTree`: everything is in a folder

## Main statements

- `Disk.entry?_put`, `Disk.entry?_erase`: the entries after a change
- `Disk.walk_eq_ok`, `Disk.target_named`: the system goes where the steps lead
- `Disk.makeFolder_eq_ok`, `Disk.write_eq_ok`, `Disk.rename_eq_ok`: what the operations change
-/

namespace LogViewer.Disk

/-! ## §1 Entries -/

/-- After something was put at a place, it is there, and all else is as it was. -/
theorem entry?_put (d : Disk) {p : Place} (hp : p ≠ []) (e : Entry) (q : Place) :
    entry? (d.put p e) q = if q = p then some e else d.entry? q := by
  unfold entry? put
  by_cases hq : q = p
  · subst hq
    simp [hp]
  · simp [hq, lookup_replaced]

/-- After what is at a place was removed, nothing is there, and all else is as it was. -/
theorem entry?_erase (d : Disk) {p : Place} (hp : p ≠ []) (q : Place) :
    entry? (d.erase p) q = if q = p then none else d.entry? q := by
  unfold entry? erase
  by_cases hq : q = p
  · subst hq
    simp [hp, lookup_filter_ne]
  · simp [hq, lookup_filter_ne]

/-- Everything is in a folder. -/
def IsTree (d : Disk) : Prop :=
  ∀ (folder : Place) (name : Text) (e : Entry),
    d.entry? (folder ++ [name]) = some e → d.entry? folder = some .folder

theorem isTree_empty : Disk.empty.IsTree := by
  intro folder name e h
  simp [Disk.empty, entry?] at h

/-- Everything on the way to something is a folder. -/
theorem IsTree.entry?_append {d : Disk} (tree : d.IsTree) {here rest : Place} (hne : rest ≠ [])
    {e : Entry} (h : d.entry? (here ++ rest) = some e) : d.entry? here = some .folder := by
  induction rest generalizing here with
  | nil => exact absurd rfl hne
  | cons name rest ih =>
    have hfirst : ∃ e, d.entry? (here ++ [name]) = some e := by
      by_cases hrest : rest = []
      · subst hrest
        exact ⟨e, h⟩
      · refine ⟨.folder, ih hrest ?_⟩
        rwa [List.append_assoc]
    obtain ⟨e, he⟩ := hfirst
    exact tree here name e he

/-! ## §2 Places -/

/-- Where some steps lead from a place. -/
def goes (here : Place) (steps : List Text) : Place :=
  steps.foldl (fun here step => if step = (".." : Text) then here.dropLast else here ++ [step]) here

/-- Where a path leads. -/
def place (d : Disk) (p : Path) : Place := goes (d.start p) p.steps

@[simp] theorem goes_nil (here : Place) : goes here [] = here := rfl

theorem goes_concat (here : Place) (steps : List Text) (step : Text) :
    goes here (steps ++ [step])
      = if step = ".." then (goes here steps).dropLast else goes here steps ++ [step] := by
  unfold goes
  rw [List.foldl_append]
  rfl

/-- Steps without double dots all go on. -/
theorem goes_of_not_mem {steps : List Text} (h : (".." : Text) ∉ steps) (here : Place) :
    goes here steps = here ++ steps := by
  induction steps generalizing here with
  | nil => simp
  | cons step steps ih =>
    have hstep : step ≠ ".." := fun heq => h (by simp [heq])
    have hrest : (".." : Text) ∉ steps := fun hmem => h (List.mem_cons_of_mem _ hmem)
    show goes (if step = ".." then _ else _) steps = _
    rw [if_neg hstep, ih hrest, List.append_assoc]
    rfl

/-- The steps of a path are those of its parent and its name. -/
theorem steps_eq {p : Path} (h : p.steps ≠ []) : p.steps = p.parent.steps ++ [p.name] := by
  have hlast : p.name = p.steps.getLast h := by
    simp [Path.name, List.getLast?_eq_some_getLast h]
  rw [hlast]
  exact (List.dropLast_concat_getLast h).symm

@[simp] theorem start_parent (d : Disk) (p : Path) : d.start p.parent = d.start p := rfl

/-- A path leads one step back or on from its parent. -/
theorem place_eq_ite (d : Disk) {p : Path} (hsteps : p.steps ≠ []) :
    d.place p
      = if p.name = ".." then (d.place p.parent).dropLast else d.place p.parent ++ [p.name] := by
  unfold place
  rw [steps_eq hsteps, goes_concat, start_parent]

/-- A path with a name of its own leads one step on from its parent. -/
theorem place_eq {d : Disk} {p : Path} (hsteps : p.steps ≠ []) (hname : p.name ≠ "..") :
    d.place p = d.place p.parent ++ [p.name] := by
  rw [place_eq_ite d hsteps, if_neg hname]

/-- A path without steps leads where its parent does. -/
theorem place_of_steps_eq_nil (d : Disk) {p : Path} (hsteps : p.steps = []) :
    d.place p = d.place p.parent := by
  unfold place
  rw [start_parent, Path.parent, hsteps, List.dropLast_nil]

/-! ## §3 Going there -/

/-- Walking some steps goes where they lead. -/
theorem walk_eq_ok {d : Disk} {here q : Place} {steps : List Text}
    (h : d.walk here steps = .ok q) : q = goes here steps := by
  induction steps generalizing here with
  | nil =>
    cases h
    rfl
  | cons step steps ih =>
    rw [walk] at h
    show q = goes (if step = ".." then here.dropLast else here ++ [step]) steps
    split at h
    · next hdots =>
      rw [if_pos hdots]
      exact ih h
    · next hdots =>
      rw [if_neg hdots]
      split at h
      · cases h
      · split at h
        · exact ih h
        · cases h
        · cases h

/-- No step that was walked is too long. -/
theorem le_of_walk {d : Disk} {here q : Place} {steps : List Text}
    (h : d.walk here steps = .ok q) :
    ∀ step ∈ steps, step = ".." ∨ step.byteSize ≤ stepLimit := by
  induction steps generalizing here with
  | nil => simp
  | cons step steps ih =>
    rw [walk] at h
    intro step' hmem
    split at h
    · next hdots =>
      rcases List.mem_cons.1 hmem with rfl | hmem
      · exact .inl hdots
      · exact ih h step' hmem
    · split at h
      · cases h
      · next hlimit =>
        split at h
        · rcases List.mem_cons.1 hmem with rfl | hmem
          · exact .inr (Nat.le_of_not_lt hlimit)
          · exact ih h step' hmem
        · cases h
        · cases h

/-- Steps without double dots can be walked to every folder that they lead to. -/
theorem walk_of_isTree {d : Disk} (tree : d.IsTree) {here : Place} {steps : List Text}
    (hdots : (".." : Text) ∉ steps) (hlimit : ∀ step ∈ steps, step.byteSize ≤ stepLimit)
    (h : d.entry? (here ++ steps) = some .folder) : d.walk here steps = .ok (here ++ steps) := by
  induction steps generalizing here with
  | nil => simp [walk]
  | cons step steps ih =>
    have hstep : step ≠ ".." := fun heq => hdots (by simp [heq])
    have hrest : (".." : Text) ∉ steps := fun hmem => hdots (List.mem_cons_of_mem _ hmem)
    have hshort : ¬ stepLimit < step.byteSize :=
      Nat.not_lt.2 (hlimit step (List.mem_cons_self ..))
    have hsplit : here ++ step :: steps = (here ++ [step]) ++ steps := by simp
    rw [hsplit] at h ⊢
    -- The first step leads to a folder, as something is below it or it is the last.
    have hfolder : d.entry? (here ++ [step]) = some .folder := by
      by_cases hnil : steps = []
      · simpa [hnil] using h
      · exact tree.entry?_append hnil h
    rw [walk, if_neg hstep, if_neg hshort, hfolder]
    exact ih hrest (fun step hmem => hlimit step (List.mem_cons_of_mem _ hmem)) h

/-- What a path leads to that is not a folder by its steps alone. -/
theorem target_named {d : Disk} {p : Path} {folder : Place} {name : Text}
    (h : d.target p = .ok (.named folder name)) :
    p.steps ≠ [] ∧ p.name ≠ ".." ∧ d.walk (d.start p) p.parent.steps = .ok folder ∧
      d.place p = folder ++ [name] := by
  unfold target at h
  split at h
  · cases h
  · split at h
    · obtain ⟨q, _, hq⟩ := map_eq_ok_iff.1 h
      cases hq
    · next hnamed =>
      obtain ⟨hname, hsteps⟩ := not_or.1 hnamed
      obtain ⟨q, hwalk, h⟩ := bind_eq_ok_iff.1 h
      split at h
      · cases h
      · cases h
        refine ⟨hsteps, hname, hwalk, ?_⟩
        rw [place_eq hsteps hname, walk_eq_ok hwalk]
        rfl

/-! ## §4 What is found -/

/-- What is at the end of a path. -/
def found (d : Disk) (p : Path) : Option Entry := (d.find p).toOption

theorem found_of_folder {d : Disk} {p : Path} {q : Place} (h : d.target p = .ok (.folder q)) :
    d.found p = some .folder := by
  unfold found find
  rw [h]
  rfl

/-- A path that leads to a name finds what is at its place. -/
theorem found_of_named {d : Disk} {p : Path} {folder : Place} {name : Text}
    (h : d.target p = .ok (.named folder name)) : d.found p = d.entry? (d.place p) := by
  obtain ⟨_, _, _, hplace⟩ := target_named h
  unfold found find
  rw [h, hplace]
  simp only [bind, Except.bind]
  cases d.entry? (folder ++ [name]) <;> rfl

theorem found_of_error {d : Disk} {p : Path} {fault : FileFault} (h : d.target p = .error fault) :
    d.found p = none := by
  unfold found find
  rw [h]
  rfl

/-- A file that is found is read, unless the system refuses to. -/
theorem read_of_found {d : Disk} {p : Path} {content : ByteArray} (hallowed : d.allow .read p = .ok ())
    (h : d.found p = some (.file content)) : d.read p = .ok content := by
  unfold found at h
  unfold read
  rw [hallowed]
  cases hfind : d.find p with
  | error fault =>
    rw [hfind] at h
    cases h
  | ok e =>
    rw [hfind] at h
    cases h
    rfl

/-! ## §5 What operations change -/

theorem create_eq_ok {d d' : Disk} {folder : Place} {name : Text} {e : Entry}
    (h : d.create folder name e = .ok d') :
    d.entry? folder = some .folder ∧ d' = d.put (folder ++ [name]) e := by
  unfold create at h
  split at h
  · next hfolder =>
    cases h
    exact ⟨hfolder, rfl⟩
  · cases h

/-- A folder that is made is new. -/
theorem makeFolder_eq_ok {d d' : Disk} {p : Path} (h : d.makeFolder p = .ok d') :
    d.place p ≠ [] ∧ d.entry? (d.place p) = none ∧ d' = d.put (d.place p) .folder := by
  unfold makeFolder at h
  obtain ⟨_, _, h⟩ := bind_eq_ok_iff.1 h
  obtain ⟨target, htarget, h⟩ := bind_eq_ok_iff.1 h
  cases target with
  | folder q => cases h
  | named folder name =>
    obtain ⟨_, _, _, hplace⟩ := target_named htarget
    dsimp only at h
    rw [hplace]
    cases hentry : d.entry? (folder ++ [name]) with
    | some e =>
      rw [hentry] at h
      cases h
    | none =>
      rw [hentry] at h
      exact ⟨by simp, rfl, (create_eq_ok h).2⟩

/-- A file is written in a folder that is there, and not in place of a folder. -/
theorem write_eq_ok {d d' : Disk} {p : Path} {content : ByteArray} (h : d.write p content = .ok d') :
    ∃ folder name, d.target p = .ok (.named folder name) ∧
      d.entry? (d.place p) ≠ some .folder ∧ d' = d.put (d.place p) (.file content) := by
  unfold write at h
  obtain ⟨_, _, h⟩ := bind_eq_ok_iff.1 h
  obtain ⟨target, htarget, h⟩ := bind_eq_ok_iff.1 h
  cases target with
  | folder q => cases h
  | named folder name =>
    obtain ⟨_, _, _, hplace⟩ := target_named htarget
    dsimp only at h
    split at h
    · cases h
    · next hentry =>
      refine ⟨folder, name, htarget, ?_, ?_⟩
      · rwa [hplace]
      · rw [hplace]
        exact (create_eq_ok h).2

/-- What is moved leaves its place, and is put at another that holds no folder. -/
theorem rename_eq_ok {d d' : Disk} {source goal : Path} (h : d.rename source goal = .ok d') :
    ∃ folder name e, d.target goal = .ok (.named folder name) ∧
      d.entry? (d.place source) = some e ∧ d.entry? (d.place goal) ≠ some .folder ∧
      d' = (d.erase (d.place source)).put (d.place goal) e := by
  unfold rename at h
  obtain ⟨_, _, h⟩ := bind_eq_ok_iff.1 h
  obtain ⟨from', hsource, h⟩ := bind_eq_ok_iff.1 h
  obtain ⟨to', hgoal, h⟩ := bind_eq_ok_iff.1 h
  -- Only what has a name in a folder is moved, and only to such a name.
  cases from' with
  | folder q => cases h
  | named folder name =>
    cases to' with
    | folder q => cases h
    | named folder' name' =>
      obtain ⟨_, _, _, hplace⟩ := target_named hsource
      obtain ⟨_, _, _, hplace'⟩ := target_named hgoal
      dsimp only at h
      rw [hplace, hplace']
      cases hentry : d.entry? (folder ++ [name]) with
      | none =>
        rw [hentry] at h
        cases h
      | some e =>
        rw [hentry] at h
        dsimp only at h
        split at h
        · cases h
        · next hfree => exact ⟨folder', name', e, hgoal, rfl, hfree, (create_eq_ok h).2⟩

end LogViewer.Disk
