import LogViewer.Proofs.LogLine.Pieces

/-!
# Texts that tell of processes

A text of the activity manager has one of three shapes if it tells that a process has started or has
died. No text has two of them, and a text tells one event at most: where several numbers are
announced in the shape that has the name first, it tells the first one.

## Main definitions

- `ProcessEvent.Tells`: the three shapes

## Main statements

- `ProcessEvent.announcedPid?_eq_some_iff`: the number that is announced first
- `ProcessEvent.tells_iff`: the reader of texts finds what a text tells, and nothing else
- `ProcessEvent.Tells.unique`: a text tells one event at most
-/

namespace LogViewer.ProcessEvent

open LogViewer.Text

/-! ## §1 Shapes -/

/-- The name of a process. -/
def IsName (s : List CodePoint) : Prop :=
  s ≠ [] ∧ ∀ c ∈ s, isNameChar c = true

/-- The name of a user. -/
def IsUser (s : List CodePoint) : Prop :=
  s ≠ [] ∧ ∀ c ∈ s, isUserChar c = true

/-- A text begins with a number that is announced, and a space follows the number. -/
def Announces (s pid : List CodePoint) : Prop :=
  IsNumber pid ∧ ∃ rest, s = Text.toList ": pid=" ++ (pid ++ .char ' ' :: rest)

/-- A number is announced in a text, on its first line, and no other one before it. -/
def FirstAnnounced (s pid : List CodePoint) : Prop :=
  ∃ purpose rest, s = purpose ++ rest ∧ ('\n' : CodePoint) ∉ purpose ∧ Announces rest pid ∧
    ∀ front back, purpose = front ++ back → back ≠ [] → ∀ other, ¬ Announces (back ++ rest) other

/-- A text tells an event. -/
inductive Tells : List CodePoint → ProcessEvent → Prop
  /-- A start with the number before the name. -/
  | numbered {pid name user rest : List CodePoint} (hpid : IsNumber pid) (hname : IsName name)
      (huser : IsUser user) :
      Tells (Text.toList "Start proc "
        ++ (pid ++ .char ':' :: (name ++ .char '/' :: (user ++ (Text.toList " for " ++ rest)))))
        (.started pid name)
  /-- A start with the name first. The number is the one that is announced first. -/
  | named {name pid rest : List CodePoint} (hname : IsName name) (hpid : FirstAnnounced rest pid) :
      Tells (Text.toList "Start proc " ++ (name ++ (Text.toList " for " ++ rest)))
        (.started pid name)
  /-- A death. -/
  | died {name pid rest : List CodePoint} (hname : IsName name) (hpid : IsNumber pid) :
      Tells (Text.toList "Process "
        ++ (name ++ (Text.toList " (pid " ++ (pid ++ (Text.toList ") has died" ++ rest)))))
        (.died pid)

/-! ## §2 Pieces -/

theorem after?_eq_some_iff {beginning s rest : List CodePoint} :
    after? beginning s = some rest ↔ s = beginning ++ rest := by
  constructor
  · intro h
    unfold after? at h
    split at h
    · next hprefix =>
      cases h
      rw [List.isPrefixOf_iff_prefix] at hprefix
      exact (List.prefix_iff_eq_append.1 hprefix).symm
    · cases h
  · rintro rfl
    exact after?_append beginning rest

/-- What is announced at the beginning of a text. -/
theorem announces_iff {s pid : List CodePoint} :
    (do
      let s ← after? (Text.toList ": pid=") s
      let (pid, s) ← LogLine.digits? s
      let _ ← LogLine.char? ' ' s
      return pid) = some pid ↔ Announces s pid := by
  simp only [Option.bind_eq_bind, Option.bind_eq_some_iff, Prod.exists, Option.pure_def,
    Option.some.injEq, after?_eq_some_iff, LogLine.digits?_eq_some_iff, LogLine.char?_eq_some_iff]
  constructor
  · rintro ⟨s₁, rfl, pid, s₂, ⟨rfl, hpid, _⟩, s₃, rfl, rfl⟩
    exact ⟨hpid, s₃, rfl⟩
  · rintro ⟨hpid, rest, rfl⟩
    refine ⟨_, rfl, pid, ' ' :: rest, ⟨rfl, hpid, ?_⟩, rest, rfl, rfl⟩
    rintro c ⟨⟩
    decide

theorem Announces.unique {s pid other : List CodePoint} (h : Announces s pid)
    (h' : Announces s other) :
    other = pid := by
  rw [← announces_iff] at h h'
  exact Option.some.inj (h'.symm.trans h)

theorem Announces.firstAnnounced {s pid : List CodePoint} (h : Announces s pid) :
    FirstAnnounced s pid := by
  refine ⟨[], s, rfl, by simp, h, ?_⟩
  intro front back hsplit hback
  exact absurd (List.append_eq_nil_iff.1 hsplit.symm).2 hback

/-- If a number is announced at the beginning, no other one is announced first. -/
theorem FirstAnnounced.eq_of_announces {s pid other : List CodePoint} (h : Announces s pid)
    (h' : FirstAnnounced s other) : other = pid := by
  obtain ⟨purpose, rest, rfl, -, hother, hfirst⟩ := h'
  cases purpose with
  | nil => exact h.unique hother
  | cons c purpose => exact absurd h (hfirst [] (c :: purpose) rfl (by simp) pid)

/-- If no number is announced at the beginning, the one announced first comes after the first
character, which is no line feed. -/
theorem firstAnnounced_cons_iff {c : CodePoint} {s pid : List CodePoint}
    (h : ∀ other, ¬ Announces (c :: s) other) :
    FirstAnnounced (c :: s) pid ↔ c ≠ '\n' ∧ FirstAnnounced s pid := by
  constructor
  · rintro ⟨purpose, rest, hs, hpurpose, hpid, hfirst⟩
    cases purpose with
    | nil =>
      rw [List.nil_append] at hs
      exact absurd (hs ▸ hpid) (h pid)
    | cons d purpose =>
      obtain ⟨rfl, rfl⟩ := List.cons.inj hs
      rw [List.mem_cons, not_or] at hpurpose
      refine ⟨fun hc => hpurpose.1 hc.symm, purpose, rest, rfl, hpurpose.2, hpid, ?_⟩
      rintro front back rfl hback
      exact hfirst (c :: front) back rfl hback
  · rintro ⟨hc, purpose, rest, rfl, hpurpose, hpid, hfirst⟩
    refine ⟨c :: purpose, rest, rfl, ?_, hpid, ?_⟩
    · rw [List.mem_cons, not_or]
      exact ⟨fun hc' => hc hc'.symm, hpurpose⟩
    · -- Nothing is announced at the front, and behind it the first announcement is the same.
      intro front back hsplit hback
      cases front with
      | nil =>
        rw [List.nil_append] at hsplit
        subst hsplit
        exact h
      | cons d front => exact hfirst front back (List.cons.inj hsplit).2 hback

/-- The reader finds the number that is announced first. -/
theorem announcedPid?_eq_some_iff {s pid : List CodePoint} :
    announcedPid? s = some pid ↔ FirstAnnounced s pid := by
  induction s with
  | nil =>
    constructor
    · intro h
      cases h
    · rintro ⟨purpose, rest, hs, -, ⟨-, rest', hrest⟩, -⟩
      obtain ⟨-, rfl⟩ := List.append_eq_nil_iff.1 hs.symm
      cases hrest
  | cons c s ih =>
    rw [announcedPid?]
    split
    · next pid' hread =>
      have hpid := announces_iff.1 hread
      constructor
      · rintro ⟨⟩
        exact hpid.firstAnnounced
      · intro h
        rw [h.eq_of_announces hpid]
    · next hread =>
      -- Nothing is announced here, so a line feed ends the search.
      have hnot : ∀ other, ¬ Announces (c :: s) other := by
        intro other hother
        rw [announces_iff.2 hother] at hread
        cases hread
      rw [firstAnnounced_cons_iff hnot, ← ih]
      split
      · next hc => simp [hc]
      · next hc => simp [hc]

/-! ## §3 Reading -/

theorem numberedStart?_eq_some_iff {text : List CodePoint} {event : ProcessEvent} :
    numberedStart? text = some event ↔ ∃ pid name user rest, IsNumber pid ∧ IsName name ∧
      IsUser user ∧ event = .started pid name ∧ text = Text.toList "Start proc " ++
        (pid ++ .char ':' :: (name ++ .char '/' :: (user ++ (Text.toList " for " ++ rest)))) := by
  simp only [numberedStart?, Option.bind_eq_bind, Option.bind_eq_some_iff, Prod.exists,
    Option.pure_def, Option.some.injEq, after?_eq_some_iff, LogLine.digits?_eq_some_iff,
    LogLine.char?_eq_some_iff, run?_eq_some_iff]
  constructor
  · rintro ⟨_, rfl, pid, _, ⟨rfl, hpid, -⟩, _, rfl, name, _, ⟨rfl, hname, -⟩, _, rfl, user, _,
      ⟨rfl, huser, -⟩, rest, rfl, rfl⟩
    exact ⟨pid, name, user, rest, hpid, hname, huser, rfl, rfl⟩
  · rintro ⟨pid, name, user, rest, hpid, hname, huser, rfl, rfl⟩
    refine ⟨_, rfl, pid, _, ⟨rfl, hpid, ?_⟩, _, rfl, name, _, ⟨rfl, hname, ?_⟩, _, rfl, user, _,
      ⟨rfl, huser, ?_⟩, rest, rfl, rfl⟩
    · rintro c ⟨⟩
      decide
    · rintro c ⟨⟩
      decide
    · rintro c ⟨⟩
      decide

theorem namedStart?_eq_some_iff {text : List CodePoint} {event : ProcessEvent} :
    namedStart? text = some event ↔ ∃ pid name rest, IsName name ∧ FirstAnnounced rest pid ∧
      event = .started pid name ∧
      text = Text.toList "Start proc " ++ (name ++ (Text.toList " for " ++ rest)) := by
  simp only [namedStart?, Option.bind_eq_bind, Option.bind_eq_some_iff, Prod.exists,
    Option.pure_def, Option.some.injEq, after?_eq_some_iff, run?_eq_some_iff,
    announcedPid?_eq_some_iff]
  constructor
  · rintro ⟨_, rfl, name, _, ⟨rfl, hname, -⟩, rest, rfl, pid, hpid, rfl⟩
    exact ⟨pid, name, rest, hname, hpid, rfl, rfl⟩
  · rintro ⟨pid, name, rest, hname, hpid, rfl, rfl⟩
    refine ⟨_, rfl, name, _, ⟨rfl, hname, ?_⟩, rest, rfl, pid, hpid, rfl⟩
    rintro c ⟨⟩
    decide

theorem death?_eq_some_iff {text : List CodePoint} {event : ProcessEvent} :
    death? text = some event ↔ ∃ pid name rest, IsName name ∧ IsNumber pid ∧ event = .died pid ∧
      text = Text.toList "Process " ++
        (name ++ (Text.toList " (pid " ++ (pid ++ (Text.toList ") has died" ++ rest)))) := by
  simp only [death?, Option.bind_eq_bind, Option.bind_eq_some_iff, Prod.exists, Option.pure_def,
    Option.some.injEq, after?_eq_some_iff, run?_eq_some_iff, LogLine.digits?_eq_some_iff]
  constructor
  · rintro ⟨_, rfl, name, _, ⟨rfl, hname, -⟩, _, rfl, pid, _, ⟨rfl, hpid, -⟩, rest, rfl, rfl⟩
    exact ⟨pid, name, rest, hname, hpid, rfl, rfl⟩
  · rintro ⟨pid, name, rest, hname, hpid, rfl, rfl⟩
    refine ⟨_, rfl, name, _, ⟨rfl, hname, ?_⟩, _, rfl, pid, _, ⟨rfl, hpid, ?_⟩, rest, rfl, rfl⟩
    · rintro c ⟨⟩
      decide
    · rintro c ⟨⟩
      decide

/-- A text that has the name first does not have the number first: what follows the letters, digits
and points behind the first words is a space and not a slash. -/
theorem numberedStart?_named {name : List CodePoint} (hname : IsName name) (rest : List CodePoint) :
    numberedStart? (Text.toList "Start proc " ++ (name ++ (Text.toList " for " ++ rest)))
      = none := by
  rw [Option.eq_none_iff_forall_not_mem]
  intro event hread
  obtain ⟨pid, name', user, rest', hpid, hname', -, -, htext⟩ :=
    numberedStart?_eq_some_iff.1 hread
  have hsame := List.append_cancel_left htext
  let holds (c : CodePoint) : Bool := isNameChar c || isDecimal c
  -- Both readings split the text behind the same letters, digits and points.
  have hspace : run? holds (name ++ (Text.toList " for " ++ rest))
      = some (name, (Text.toList " for ") ++ rest) := by
    refine run?_eq_some_iff.2 ⟨rfl, ⟨hname.1, ?_⟩, ?_⟩
    · intro c hc
      simp [holds, hname.2 c hc]
    · rintro c ⟨⟩
      decide
  have hslash : run? holds (pid
      ++ .char ':' :: (name' ++ .char '/' :: (user ++ (Text.toList " for " ++ rest'))))
      = some (pid ++ .char ':' :: name',
        .char '/' :: (user ++ (Text.toList " for " ++ rest'))) := by
    refine run?_eq_some_iff.2 ⟨by simp, ⟨by simp, ?_⟩, ?_⟩
    · intro c hc
      rw [List.mem_append, List.mem_cons] at hc
      rcases hc with hc | rfl | hc
      · simp [holds, hpid.2 c hc]
      · decide
      · simp [holds, hname'.2 c hc]
    · rintro c ⟨⟩
      decide
  rw [hsame, hslash] at hspace
  cases hspace

/-- The reader of texts finds what a text tells, and nothing else. -/
theorem tells_iff {text : List CodePoint} {event : ProcessEvent} :
    Tells text event ↔ read text = some event := by
  have hdeath : ∀ rest, after? (Text.toList "Start proc ")
      (Text.toList "Process " ++ rest) = none :=
    fun rest => rfl
  constructor
  · intro h
    cases h with
    | @numbered pid name user rest hpid hname huser =>
      have hread := numberedStart?_eq_some_iff.2
        ⟨pid, name, user, rest, hpid, hname, huser, rfl, rfl⟩
      rw [read, hread, Option.some_or]
    | @named name pid rest hname hpid =>
      have hread := namedStart?_eq_some_iff.2 ⟨pid, name, rest, hname, hpid, rfl, rfl⟩
      -- The reader tries the number first, which does not fit.
      rw [read, numberedStart?_named hname, hread, Option.none_or, Option.some_or]
    | @died name pid rest hname hpid =>
      have hread := death?_eq_some_iff.2 ⟨pid, name, rest, hname, hpid, rfl, rfl⟩
      rw [read, numberedStart?, namedStart?, hdeath, hread]
      rfl
  · intro h
    rw [read, Option.or_eq_some_iff, Option.or_eq_some_iff] at h
    rcases h with hread | ⟨-, hread | ⟨-, hread⟩⟩
    · obtain ⟨pid, name, user, rest, hpid, hname, huser, rfl, rfl⟩ :=
        numberedStart?_eq_some_iff.1 hread
      exact .numbered hpid hname huser
    · obtain ⟨pid, name, rest, hname, hpid, rfl, rfl⟩ := namedStart?_eq_some_iff.1 hread
      exact .named hname hpid
    · obtain ⟨pid, name, rest, hname, hpid, rfl, rfl⟩ := death?_eq_some_iff.1 hread
      exact .died hname hpid

/-- A text tells one event at most. -/
theorem Tells.unique {text : List CodePoint} {event other : ProcessEvent} (h : Tells text event)
    (h' : Tells text other) : event = other :=
  Option.some.inj ((tells_iff.1 h).symm.trans (tells_iff.1 h'))

end LogViewer.ProcessEvent
