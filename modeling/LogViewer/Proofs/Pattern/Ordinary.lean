import LogViewer.Proofs.Pattern.Counts

/-!
# Patterns of ordinary characters

A character that is no operator stands for itself, and a point stands for any character. A pattern
of such characters alone is always accepted: each character is one leaf, and nothing else is in the
tree.

## Main definitions

- `IsOrdinary`: a character that stands for itself, or a point
- `ordinaryAtom`: the leaf of such a character

## Main statements

- `readItems_ordinary`: a row of ordinary characters up to the end of the pattern
- `readPattern_ordinary`, `compile_ordinary`: a whole pattern of ordinary characters
-/

namespace LogViewer.Pattern

open Read

/-! ## §1 Characters -/

/-- The characters that stand for something else than a character. -/
def operators : List CodePoint :=
    [('\\' : CodePoint), '|', ')', '[', '^', '$', '*', '+', '?', '\x7b', '(']

/-- A character that stands for itself, or a point. -/
def IsOrdinary (c : CodePoint) : Prop := c ∉ operators

instance (c : CodePoint) : Decidable (IsOrdinary c) := inferInstanceAs (Decidable (c ∉ operators))

/-- What an ordinary character stands for. -/
def ordinaryAtom (c : CodePoint) : Atom := if c = '.' then .any else .literal c.toNat

/-- The items of a row of ordinary characters. -/
def ordinaryItems (cs : List CodePoint) : List (Tree Atom) := cs.map fun c => .leaf (ordinaryAtom c)

/-! ## §2 Reading -/

/-- A reading state that has some ordinary characters before it, of which the first is in view. -/
def State.facing (s : State) (cs : List CodePoint) : State :=
  { s with next := cs.head?.map .plain, rest := cs.tail }

/-- The next ordinary character comes into view. -/
theorem advance_facing {cs : List CodePoint} (h : ∀ c ∈ cs, IsOrdinary c) (s : State)
    (token : Option Token) : ∃ index, advance { s with next := token, rest := cs }
      = .ok ((), ({ s with index } : State).facing cs) := by
  cases cs with
  | nil => exact ⟨s.index, rfl⟩
  | cons c cs =>
    -- A backslash would take the next character along.
    have hc : c ≠ '\\' := by
      rintro rfl
      exact h '\\' (by simp) (by decide)
    refine ⟨s.index + 1, ?_⟩
    simp [advance, hc, run_bind, run_get, run_set, Except.bind, State.facing]

theorem run_position (s : State) :
    position s = .ok (s.index - (s.next.map (·.chars.length)).getD 0, s) := rfl

/-- An ordinary character is an item of its own. -/
theorem readItems_cons {c : CodePoint} (hc : IsOrdinary c) (fuel : Nat) (first : Bool)
    (items : List (Tree Atom)) {s : State} (hs : s.next = some (.plain c)) :
    readItems (fuel + 1) false first items s
      = (advance >>= fun _ => readItems fuel false first (.leaf (ordinaryAtom c) :: items)) s := by
  have hnot : ∀ d ∈ operators, Token.plain c ≠ .plain d := by
    rintro d hd ⟨⟩
    exact hc hd
  -- The position of the character is noted for complaints only.
  have hread : ∀ x : Read (List (Tree Atom)), x = (position >>= fun _ => advance >>= fun _ =>
        readItems fuel false first (.leaf (ordinaryAtom c) :: items)) →
      x s = (advance >>= fun _ => readItems fuel false first (.leaf (ordinaryAtom c) :: items)) s := by
    rintro x rfl
    rw [run_bind, run_position]
    rfl
  rw [readItems, run_bind, run_get]
  simp only [Except.bind, hs, Bool.false_and, Bool.false_eq_true, if_false]
  apply hread
  split
  · next h => cases h
  · next h => exact absurd (Option.some.inj h) (hnot '|' (by decide))
  · next h => exact absurd (Option.some.inj h) (hnot ')' (by decide))
  · next t _ _ h =>
    cases h
    congr 1
    funext _
    congr 1
    funext _
    split
    · next h => cases h
    · next h => exact absurd h (hnot '[' (by decide))
    · next h =>
      cases h
      rfl
    · next h => exact absurd h (hnot '^' (by decide))
    · next h => exact absurd h (hnot '$' (by decide))
    · next h => exact absurd h (hnot '*' (by decide))
    · next h => exact absurd h (hnot '+' (by decide))
    · next h => exact absurd h (hnot '?' (by decide))
    · next h => exact absurd h (hnot '\x7b' (by decide))
    · next h => exact absurd h (hnot '(' (by decide))
    · next hpoint _ _ _ _ _ _ _ h =>
      cases h
      have hc' : c ≠ '.' := hpoint
      simp [ordinaryAtom, hc']

/-- A row of ordinary characters up to the end of the pattern is read whole, one item for each. -/
theorem readItems_ordinary {cs : List CodePoint} (h : ∀ c ∈ cs, IsOrdinary c) {fuel : Nat}
    (hfuel : cs.length < fuel) (first : Bool) (items : List (Tree Atom)) (s : State) :
    ∃ index, readItems fuel false first items (s.facing cs)
      = .ok (items.reverse ++ ordinaryItems cs, ({ s with index } : State).facing []) := by
  induction cs generalizing fuel items s with
  | nil =>
    obtain ⟨fuel, rfl⟩ := Nat.exists_eq_add_of_lt hfuel
    refine ⟨s.index, ?_⟩
    rw [readItems, run_bind, run_get]
    simp only [Except.bind, State.facing, List.head?_nil, Option.map_none, ordinaryItems,
      List.map_nil, List.append_nil]
    rfl
  | cons c cs ih =>
    obtain ⟨fuel, rfl⟩ := Nat.exists_eq_add_of_lt hfuel
    have hrest : ∀ d ∈ cs, IsOrdinary d := fun d hd => h d (List.mem_cons_of_mem c hd)
    -- A character that is no operator is one item, and reading goes on behind it.
    obtain ⟨index, hadvance⟩ := advance_facing hrest s (some (.plain c))
    have hadvance : advance (s.facing (c :: cs)) = .ok ((), ({ s with index } : State).facing cs) :=
      hadvance
    have hfuel : cs.length < (c :: cs).length + fuel := by
      rw [List.length_cons]
      omega
    obtain ⟨index', hread⟩ :=
      ih hrest hfuel (.leaf (ordinaryAtom c) :: items) { s with index }
    refine ⟨index', ?_⟩
    rw [readItems_cons (h c (by simp)) _ _ _ rfl, run_bind, hadvance]
    simp only [Except.bind]
    rw [hread]
    simp [ordinaryItems]

/-! ## §3 Whole patterns -/

/-- Single characters are no groups. -/
theorem unwrapGroups_ordinaryItems (cs : List CodePoint) :
    unwrapGroups (ordinaryItems cs) = ordinaryItems cs := by
  unfold ordinaryItems
  induction cs with
  | nil => rfl
  | cons c cs ih =>
    rw [List.map_cons]
    exact congrArg _ ih

/-- Ordinary characters are the only alternative. -/
theorem readChoices_ordinary {cs : List CodePoint} (h : ∀ c ∈ cs, IsOrdinary c) {fuel : Nat}
    (hfuel : cs.length < fuel) (s : State) : ∃ index,
      readChoices (fuel + 1) false false [] (s.facing cs)
        = .ok (ordinaryItems cs, ({ s with index } : State).facing []) := by
  obtain ⟨index, hitems⟩ := readItems_ordinary h hfuel true [] s
  refine ⟨index, ?_⟩
  rw [readChoices, run_bind]
  simp only [Bool.not_false, List.isEmpty_nil, Bool.and_true, hitems, Except.bind,
    List.reverse_nil, List.nil_append, unwrapGroups_ordinaryItems]
  rfl

/-- A whole pattern of ordinary characters is read without a complaint. -/
theorem readWhole_ordinary {s : State} (h : ∀ c ∈ s.rest, IsOrdinary c)
    (hverbose : s.flags.verbose = false) (hascii : s.flags.ascii = false)
    (hconditions : s.conditions = []) :
    ∃ s', readWhole s.rest.length s = .ok ((Tree.ofList (ordinaryItems s.rest), s.flags), s') := by
  obtain ⟨index, hadvance⟩ := advance_facing h s s.next
  have hadvance : advance s = .ok ((), ({ s with index } : State).facing s.rest) := hadvance
  have hfuel : s.rest.length < 2 * s.rest.length + 3 := by omega
  obtain ⟨index', hchoices⟩ := readChoices_ordinary h hfuel { s with index }
  have hflags : (({ s with index } : State).facing s.rest).flags.verbose = false := hverbose
  refine ⟨({ s with index := index' } : State).facing [], ?_⟩
  unfold readWhole
  rw [run_bind, hadvance]
  simp only [Except.bind]
  rw [run_bind, run_get]
  simp only [Except.bind]
  rw [run_bind, hflags, hchoices]
  simp only [Except.bind]
  rw [run_bind, run_get]
  -- None of the complaints about the pattern as a whole applies.
  simp [Except.bind, State.facing, hascii, hconditions, run_pure]

/-- A pattern of ordinary characters is their sequence. -/
theorem readPattern_ordinary {cs : List CodePoint} (h : ∀ c ∈ cs, IsOrdinary c) {flags : Flags}
    (hverbose : flags.verbose = false) (hascii : flags.ascii = false) :
    readPattern cs flags = .ok (Tree.ofList (ordinaryItems cs), flags) := by
  let start : State :=
    { next := none, rest := cs, index := 0, flags, names := [], widths := [none],
      lookbehind := none, conditions := [] }
  have hstart : ∀ c ∈ start.rest, IsOrdinary c := h
  obtain ⟨s', hwhole⟩ := readWhole_ordinary hstart hverbose hascii rfl
  show (readWhole cs.length start).map (·.1) = _
  rw [hwhole]
  rfl

/-- Resolving the flags of single characters is always possible. -/
theorem resolve_ordinary (cs : List CodePoint) (flags : Flags) :
    (Tree.ofList (ordinaryItems cs)).resolve flags
      = .ok (Tree.ofList (cs.map fun c => .leaf ((ordinaryAtom c).resolve flags))) := by
  induction cs with
  | nil => rfl
  | cons c cs ih =>
    have hcons : ordinaryItems (c :: cs) = .leaf (ordinaryAtom c) :: ordinaryItems cs := rfl
    rw [hcons, Tree.ofList, Tree.resolve, ih]
    rfl

/-- A pattern of ordinary characters is accepted. -/
theorem compile_ordinary {pattern : Text} (h : ∀ c ∈ pattern.toList, IsOrdinary c) :
    compile pattern = .ok ⟨Tree.ofList (pattern.toList.map fun c =>
      .leaf ((ordinaryAtom c).resolve (smartFlags pattern.toList)))⟩ := by
  unfold compile
  rw [readPattern_ordinary h rfl rfl]
  show Except.bind ((Tree.ofList (ordinaryItems pattern.toList)).resolve _) _ = _
  rw [resolve_ordinary]
  rfl

end LogViewer.Pattern
