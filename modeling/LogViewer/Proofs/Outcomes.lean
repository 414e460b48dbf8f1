/-!
# Steps that may fail

A step that may fail is changed by a function or followed by another step. What comes out of it is
taken apart into what came out of each part.

## Main statements

- `map_eq_ok_iff`, `map_eq_error_iff`: a result that is changed
- `mapError_eq_ok_iff`, `mapError_eq_error_iff`: a fault that is changed
- `bind_eq_ok_iff`, `bind_eq_error_iff`: a chain of two steps
- `exists_mapM_iff`, `mapM_eq_error_iff`: one step for each item of a list
- `forall_mem_mapM_iff`: what holds of all that the steps give
-/

namespace LogViewer

variable {ε δ α β : Type}

/-- A result that is changed is there exactly if one was there before. -/
theorem map_eq_ok_iff {x : Except ε α} {f : α → β} {b : β} :
    x.map f = .ok b ↔ ∃ a, x = .ok a ∧ f a = b := by
  cases x <;> simp [Except.map]

/-- A result that is changed is a fault exactly if it was the same fault before. -/
theorem map_eq_error_iff {x : Except ε α} {f : α → β} {e : ε} :
    x.map f = .error e ↔ x = .error e := by
  cases x <;> simp [Except.map]

/-- A result is there exactly if it was before its fault was changed. -/
theorem mapError_eq_ok_iff {x : Except ε α} {f : ε → δ} {a : α} :
    x.mapError f = .ok a ↔ x = .ok a := by
  cases x with
  | ok b =>
    show Except.ok b = .ok a ↔ _
    simp
  | error e =>
    show Except.error (f e) = .ok a ↔ _
    simp

/-- A fault that is changed comes of one before. -/
theorem mapError_eq_error_iff {x : Except ε α} {f : ε → δ} {d : δ} :
    x.mapError f = .error d ↔ ∃ e, x = .error e ∧ f e = d := by
  cases x with
  | ok b =>
    show Except.ok b = .error d ↔ _
    simp
  | error e =>
    show Except.error (f e) = .error d ↔ _
    simp

/-- A chain of two steps succeeds if both of them do. -/
theorem bind_eq_ok_iff {x : Except ε α} {f : α → Except ε β} {b : β} :
    x >>= f = .ok b ↔ ∃ a, x = .ok a ∧ f a = .ok b := by
  cases x <;> simp [bind, Except.bind]

/-- A chain of two steps fails with a fault of one of them. -/
theorem bind_eq_error_iff {x : Except ε α} {f : α → Except ε β} {e : ε} :
    x >>= f = .error e ↔ x = .error e ∨ ∃ a, x = .ok a ∧ f a = .error e := by
  cases x <;> simp [bind, Except.bind]

/-- A step for each item of a list succeeds if all of them do. -/
theorem exists_mapM_iff {f : α → Except ε β} {xs : List α} :
    (∃ ys, xs.mapM f = .ok ys) ↔ ∀ x ∈ xs, ∃ y, f x = .ok y := by
  induction xs with
  | nil => simp [pure, Except.pure]
  | cons x xs ih =>
    rw [List.forall_mem_cons, ← ih]
    simp only [List.mapM_cons, bind_eq_ok_iff]
    constructor
    · rintro ⟨_, y, hy, ys, hys, _⟩
      exact ⟨⟨y, hy⟩, ys, hys⟩
    · rintro ⟨⟨y, hy⟩, ys, hys⟩
      exact ⟨y :: ys, y, hy, ys, hys, rfl⟩

/-- Something holds of all that the steps for the items of a list give if it holds of what each step
gives. -/
theorem forall_mem_mapM_iff {f : α → Except ε β} {xs : List α} {ys : List β} (h : xs.mapM f = .ok ys)
    (P : β → Prop) : (∀ y ∈ ys, P y) ↔ ∀ x ∈ xs, ∃ y, f x = .ok y ∧ P y := by
  induction xs generalizing ys with
  | nil =>
    cases h
    simp
  | cons x xs ih =>
    rw [List.mapM_cons] at h
    obtain ⟨y, hy, hrest⟩ := bind_eq_ok_iff.1 h
    obtain ⟨rest, hmore, hall⟩ := bind_eq_ok_iff.1 hrest
    cases hall
    rw [List.forall_mem_cons, List.forall_mem_cons, ih hmore, hy]
    simp

/-- The fault of a step, if it fails. -/
def errorOf? : Except ε α → Option ε
  | .ok _ => none
  | .error e => some e

/-- The steps for the items of a list fail with the first fault. -/
theorem mapM_eq_error_iff {f : α → Except ε β} {xs : List α} {e : ε} :
    xs.mapM f = .error e ↔ (xs.findSome? fun x => errorOf? (f x)) = some e := by
  induction xs with
  | nil => simp [pure, Except.pure]
  | cons x xs ih =>
    rw [List.mapM_cons, bind_eq_error_iff, List.findSome?_cons]
    cases f x with
    | error e' => simp [errorOf?]
    | ok y =>
      -- The first step succeeds, so it depends on the others.
      have hrest : (xs.mapM f >>= fun ys => pure (y :: ys)) = .error e ↔ xs.mapM f = .error e := by
        rw [bind_eq_error_iff]
        simp [pure, Except.pure]
      rw [errorOf?, ← ih, ← hrest]
      simp

end LogViewer
