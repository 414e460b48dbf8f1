import Mathlib.Data.List.Induction

/-!
# Traces

What a system can do is a relation between two states and the event that leads from one to the
other. A trace is a sequence of events with the states that they lead through. What holds at its
beginning and is kept by every event holds at its end.

## Main definitions

- `Trace`: a state, some events and the state that they lead to

## Main statements

- `Trace.append_iff`: a trace in two pieces
- `Trace.invariant`: what every event keeps
-/

namespace LogViewer

variable {State Event : Type}

/-- A sequence of events, the first one first. -/
inductive Trace (step : State → Event → State → Prop) : State → List Event → State → Prop
  | nil (a : State) : Trace step a [] a
  | concat {a b c : State} {events : List Event} {e : Event} :
      Trace step a events b → step b e c → Trace step a (events ++ [e]) c

namespace Trace

variable {step : State → Event → State → Prop} {a b c : State} {events more : List Event} {e : Event}

/-- A single event is a trace. -/
theorem single (h : step a e b) : Trace step a [e] b := .concat (.nil a) h

/-- One trace after another. -/
theorem append (h : Trace step a events b) (h' : Trace step b more c) :
    Trace step a (events ++ more) c := by
  induction h' with
  | nil =>
    rw [List.append_nil]
    exact h
  | concat _ hstep ih =>
    rw [← List.append_assoc]
    exact .concat ih hstep

/-- A trace without events stays where it is. -/
theorem eq_of_nil (h : Trace step a [] b) : b = a := by
  generalize hnil : ([] : List Event) = events at h
  cases h with
  | nil => rfl
  | concat => simp at hnil

/-- A trace ends with the step of its last event. -/
theorem of_concat (h : Trace step a (events ++ [e]) c) :
    ∃ b, Trace step a events b ∧ step b e c := by
  generalize hall : events ++ [e] = all at h
  cases h with
  | nil => simp at hall
  | concat hrun hstep =>
    obtain ⟨rfl, he⟩ := List.append_inj' hall rfl
    cases he
    exact ⟨_, hrun, hstep⟩

/-- A trace in two pieces passes through a state between them. -/
theorem append_iff : Trace step a (events ++ more) c ↔
    ∃ b, Trace step a events b ∧ Trace step b more c := by
  constructor
  · intro h
    induction more using List.reverseRecOn generalizing c with
    | nil =>
      rw [List.append_nil] at h
      exact ⟨c, h, .nil c⟩
    | append_singleton more e ih =>
      rw [← List.append_assoc] at h
      obtain ⟨d, hrun, hstep⟩ := h.of_concat
      obtain ⟨b, hbefore, hafter⟩ := ih hrun
      exact ⟨b, hbefore, hafter.concat hstep⟩
  · rintro ⟨b, hbefore, hafter⟩
    exact hbefore.append hafter

/-- A trace begins with the step of its first event. -/
theorem of_cons (h : Trace step a (e :: events) c) : ∃ b, step a e b ∧ Trace step b events c := by
  have hpieces : Trace step a (([] ++ [e]) ++ events) c := h
  obtain ⟨b, hfirst, hrest⟩ := append_iff.1 hpieces
  obtain ⟨a', hnil, hstep⟩ := hfirst.of_concat
  obtain rfl := hnil.eq_of_nil
  exact ⟨b, hstep, hrest⟩

/-- What every event keeps is kept by a trace. -/
theorem invariant {Holds : State → Prop} (keeps : ∀ a e b, Holds a → step a e b → Holds b)
    (h : Trace step a events b) (ha : Holds a) : Holds b := by
  induction h with
  | nil => exact ha
  | concat _ hstep ih => exact keeps _ _ _ ih hstep

end Trace

end LogViewer
