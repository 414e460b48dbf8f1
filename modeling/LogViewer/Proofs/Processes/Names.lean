import LogViewer.Proofs.Panel.SessionRules
import LogViewer.Proofs.Pattern.Ordinary
import LogViewer.Proofs.Processes.Latest

/-!
# Names of processes as patterns

The lines of the activity manager tell names of letters, digits, points, underscores and colons.
None of these characters is an operator of patterns, so the session rule for an application that is
known from a log can always be built.

## Main definitions

- `Processes.Named`: all known names consist of such characters
- `Message.HasName`: the application of a message is unknown or has such a name

## Main statements

- `hasName_of_readLines`: the applications of messages
- `Panel.exists_selectApp`: selecting the session rule for an application
-/

namespace LogViewer

open ProcessEvent (IsName isNameChar nameTold?)

/-! ## §1 Names that are told -/

/-- A text tells a name only if it is one. -/
theorem ProcessEvent.Tells.isName {text pid name : List CodePoint}
    (h : ProcessEvent.Tells text (.started pid name)) : IsName name := by
  cases h with
  | numbered _ hname _ => exact hname
  | named hname _ => exact hname

theorem isName_of_nameTold? {line name : Text} (h : nameTold? line = some name) :
    IsName name.toList := by
  obtain ⟨event, hevent, hname⟩ := Option.bind_eq_some_iff.1 h
  obtain ⟨l, _, _, htells⟩ := ProcessEvent.lineTells_iff.2 hevent
  cases event with
  | started pid chars =>
    cases hname
    rw [Text.toList_ofList]
    exact htells.isName
  | died pid => cases hname

/-- All names that are known have been told. -/
def Processes.Named (p : Processes) : Prop :=
  ∀ pid name, p.name? pid = some name → IsName name.toList

namespace Processes

theorem named_empty : Named .empty := by
  intro pid name h
  cases h

theorem Named.readLine {p q : Processes} {line : Text} {m : Option Message} (h : p.Named)
    (hline : p.readLine line = .ok (m, q)) : q.Named := by
  intro pid name hname
  -- A line tells the name anew or leaves it as it was known before.
  rw [name?_readLine hline] at hname
  split at hname
  · exact isName_of_nameTold? hname
  · exact h pid name hname

end Processes

/-! ## §2 Names in messages -/

/-- The application of a message is unknown, or its name is one. -/
def Message.HasName (m : Message) : Prop := m.app = Processes.unknown ∨ IsName m.app.toList

namespace Processes

/-- The application of a line's message is unknown or one that is known after the line. -/
theorem Named.hasName {p q : Processes} {line : Text} {m : Message} (h : p.Named)
    (hline : p.readLine line = .ok (some m, q)) : m.HasName := by
  obtain ⟨pid, _, happ⟩ := app_of_readLine hline
  unfold Message.HasName
  rw [happ, nameOf]
  cases hname : q.name? pid with
  | none => exact .inl rfl
  | some name => exact .inr (h.readLine hline pid name hname)

theorem Named.readLines {p q : Processes} {lines : List Text} {ms : List Message} (h : p.Named)
    (hlines : readLines p lines = .ok (ms, q)) : ∀ m ∈ ms, m.HasName := by
  induction lines generalizing p ms with
  | nil =>
    cases hlines
    simp
  | cons line lines ih =>
    obtain ⟨m, p', more, hline, hmore, rfl⟩ := readLines_cons_iff.1 hlines
    intro m' hm'
    rcases List.mem_append.1 hm' with hfirst | hrest
    · obtain rfl : m = some m' := by simpa using hfirst
      exact h.hasName hline
    · exact ih (h.readLine hline) hmore m' hrest

end Processes

/-- The messages of lines that are read from an empty table on. -/
theorem hasName_of_readLines {lines : List Text} {ms : List Message} {names : Processes}
    (h : readLines .empty lines = .ok (ms, names)) : ∀ m ∈ ms, m.HasName :=
  Processes.named_empty.readLines h

/-! ## §3 Names as patterns -/

/-- No character of a name is an operator. -/
theorem isOrdinary_of_isNameChar {c : CodePoint} (h : isNameChar c = true) :
    Pattern.IsOrdinary c := by
  have hoperators : (Pattern.operators.all fun d => !isNameChar d) = true := by decide
  intro hmem
  have hnot : (!isNameChar c) = true := List.all_eq_true.1 hoperators c hmem
  rw [h] at hnot
  cases hnot

/-- The session rule for an application with a name can be built. -/
theorem exists_sessionRule {app : Text} (h : IsName app.toList) :
    ∃ r, Rule.build (Panel.sessionCriteria app) true = .ok r := by
  have hcompile := Pattern.compile_ordinary fun c hc => isOrdinary_of_isNameChar (h.2 c hc)
  have hfield : ∃ pattern, compileField .app app = .ok pattern := by
    unfold compileField
    split
    · exact ⟨none, rfl⟩
    · rw [hcompile]
      exact ⟨_, rfl⟩
  obtain ⟨pattern, hfield⟩ := hfield
  -- The criteria have no text and no tag.
  have hpatterns : (Panel.sessionCriteria app).compile = .ok ⟨none, none, pattern⟩ := by
    have hcompile : (Panel.sessionCriteria app).compile
        = (compileField .app app).bind fun pattern => .ok ⟨none, none, pattern⟩ := rfl
    rw [hcompile, hfield]
    rfl
  exact Rule.exists_build_iff.2 ⟨_, hpatterns⟩

/-- Selecting the session rule for an application with a name cannot fail. -/
theorem Panel.exists_selectApp (p : Panel) {app : Text} (h : IsName app.toList) :
    ∃ q i, p.selectApp app = .ok (q, i) :=
  exists_selectApp_iff.2 (.inr (exists_sessionRule h))

end LogViewer
