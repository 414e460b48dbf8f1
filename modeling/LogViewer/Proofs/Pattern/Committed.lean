import LogViewer.Proofs.Pattern.Rounds

/-!
# Parts that are never taken back

Matching can go back to a part and try it another way. A greedy repetition gives characters back
only where what follows can begin with a character of the repetition; where it cannot, the
repetition takes all it can for good, and the part is committed to the characters that a reader
would take off the front.

## Main definitions

- `Refuses`, `Rejects`: what follows, or a part, fails before characters of a kind
- `Committed`: a part that has no choice
- `Then`, `Runs`: the characters of a sequence and of a repetition

## Main statements

- `Committed.many`, `Committed.testRow`, `Committed.append`: the parts that are committed
- `Committed.run_eq`, `Committed.run_group`: a committed part runs as a reader reads
-/

namespace LogViewer.Pattern

/-! ## §1 Parts that are never taken back -/

section Rows

variable {text : Subject} (p : Progress) (k : Continuation)

/-- A position test goes on where it is. -/
theorem run_place (pl : Place) :
    (Tree.leaf (.place pl)).run text p k = if pl.holds text p.position then k p else none := by
  have hrun : (Tree.leaf (.place pl)).run text p k = ((Step.place pl).next? text p).bind k := rfl
  rw [hrun, Step.next?]
  cases pl.holds text p.position <;> rfl

theorem run_ofList_cons (part : Tree Step) (parts : List (Tree Step)) :
    (Tree.ofList (part :: parts)).run text p k
      = part.run text p fun q => (Tree.ofList parts).run text q k := rfl

/-- Parts in a row are matched one behind the other. -/
theorem run_ofList_append (parts parts' : List (Tree Step)) :
    (Tree.ofList (parts ++ parts')).run text p k
      = (Tree.ofList parts).run text p fun q => (Tree.ofList parts').run text q k := by
  induction parts generalizing p with
  | nil => rfl
  | cons part parts ih =>
    rw [List.cons_append, run_ofList_cons, run_ofList_cons]
    congr 1
    funext q
    exact ih q

end Rows

section Committed

variable (text : Subject)

/-- What follows fails wherever a character of a kind is ahead. -/
def Refuses (k : Continuation) (bad : CodePoint → Bool) : Prop :=
  ∀ p, (∃ c ∈ (ahead text p).head?, bad c = true) → k p = none

/-- A part fails wherever a character of a kind is ahead. -/
def Rejects (t : Tree Step) (bad : CodePoint → Bool) : Prop :=
  ∀ k, Refuses text (fun p => t.run text p k) bad

/-- A part takes some characters that are in front of others, without a choice as long as what
follows refuses a kind of character. -/
def Committed (t : Tree Step) (takes : List CodePoint → List CodePoint → Prop)
    (bad : CodePoint → Bool) : Prop :=
  ∀ p k r, Refuses text k bad → (t.run text p k = some r ↔
    ∃ front rest, ahead text p = front ++ rest ∧ takes front rest ∧ k (p.skip front.length) = some r)

/-- No character is refused. -/
def nothing : CodePoint → Bool := fun _ => false

/-- Some characters and others behind them. -/
def Then (first second : List CodePoint → List CodePoint → Prop)
    (front rest : List CodePoint) : Prop :=
  ∃ a b, front = a ++ b ∧ first a (b ++ rest) ∧ second b rest

/-- Characters that pass a test, up to the first that does not. -/
def Runs (t : CharTest) (least : Nat) (front rest : List CodePoint) : Prop :=
  least ≤ front.length ∧ (∀ c ∈ front, t.holds c.toNat = true) ∧
    ∀ c ∈ rest.head?, t.holds c.toNat = false

variable {text}

theorem refuses_nothing (k : Continuation) : Refuses text k nothing := by
  rintro p ⟨c, _, hc⟩
  cases hc

namespace Rejects

variable {t u : Tree Step} {bad : CodePoint → Bool}

theorem nothing (t : Tree Step) : Rejects text t nothing := fun _ => refuses_nothing _

/-- A part that takes characters rejects those that do not pass its test. -/
theorem many {c : CharTest} {least : Nat} (hleast : 0 < least)
    (h : ∀ d, bad d = true → c.holds d.toNat = false) : Rejects text (many least c) bad := by
  rintro k p ⟨d, hd, hbad⟩
  have hreach : reach text c p = 0 := by
    unfold reach
    obtain ⟨rest, hahead⟩ := List.head?_eq_some_iff.1 hd
    rw [hahead, List.takeWhile_cons_of_neg (by simp [h d hbad])]
    rfl
  have hleast : ¬ least ≤ 0 := by omega
  simp only [run_many, hreach, rounds_zero, if_neg hleast, List.reverse_nil, List.findSome?_nil]

theorem one {c : CharTest} (h : ∀ d, bad d = true → c.holds d.toNat = false) :
    Rejects text (one c) bad := by
  rintro k p ⟨d, hd, hbad⟩
  dsimp only
  rw [run_one, Option.mem_def.1 hd]
  simp [h d hbad]

/-- A sequence rejects what its first part rejects. -/
theorem seq (h : Rejects text t bad) : Rejects text (.seq t u) bad := fun _ => h _

theorem group (h : Rejects text t bad) (g : Nat) (on off : Flags) :
    Rejects text (.group (some g) on off t) bad := fun _ p hp => h _ (p.opened g) hp

/-- The end of the text is not where a character is ahead, unless that is a line feed. -/
theorem lastLineEnd :
    Rejects text (.leaf (.place .lastLineEnd)) fun c => CharTest.noLineFeed.holds c.toNat := by
  rintro k p ⟨c, hc, hne⟩
  rw [head?_ahead, Option.mem_def] at hc
  have hlt := (Array.getElem?_eq_some_iff.1 hc).1
  have hnot : Place.lastLineEnd.holds text p.position = false := by
    have hend : p.position ≠ text.size := by omega
    have hfeed : c ≠ '\n' := by simpa using hne
    simp [Place.holds, hc, hend, hfeed]
  dsimp only
  rw [run_place, hnot]
  rfl

end Rejects

namespace Committed

variable {t u : Tree Step} {takes takes' : List CodePoint → List CodePoint → Prop}
    {bad bad' : CodePoint → Bool}

/-- Behind a part comes another one that rejects what has to be refused behind the first. -/
theorem seq (ht : Committed text t takes bad) (hu : Committed text u takes' bad')
    (hrejects : Rejects text u bad) : Committed text (.seq t u) (Then takes takes') bad' := by
  intro p k r hk
  have hrun : (Tree.seq t u).run text p k = t.run text p fun q => u.run text q k := rfl
  rw [hrun, ht p _ r (hrejects k)]
  constructor
  · rintro ⟨a, _, ha, htakes, hr⟩
    obtain ⟨b, rest, hb, htakes', hr⟩ := (hu _ k r hk).1 hr
    rw [Progress.ahead_skip, ha, List.drop_left] at hb
    subst hb
    refine ⟨a ++ b, rest, by rw [ha, List.append_assoc], ⟨a, b, rfl, htakes, htakes'⟩, ?_⟩
    rwa [List.length_append, ← Progress.skip_skip]
  · rintro ⟨_, rest, hahead, ⟨a, b, rfl, htakes, htakes'⟩, hr⟩
    rw [List.append_assoc] at hahead
    refine ⟨a, b ++ rest, hahead, htakes, (hu _ k r hk).2 ⟨b, rest, ?_, htakes', ?_⟩⟩
    · rw [Progress.ahead_skip, hahead, List.drop_left]
    · rwa [Progress.skip_skip, ← List.length_append]

theorem congr (ht : Committed text t takes bad)
    (h : ∀ front rest, takes front rest ↔ takes' front rest) : Committed text t takes' bad := by
  intro p k r hk
  rw [ht p k r hk]
  simp only [h]

/-- As many characters as possible are taken for good if what follows refuses another one. -/
theorem many (c : CharTest) (least : Nat) :
    Committed text (Pattern.many least c) (Runs c least) fun d => c.holds d.toNat := by
  intro p k r hk
  -- Behind fewer characters one is ahead that could have been taken.
  have hfewer : ∀ n < reach text c p, k (p.skip n) = none := by
    intro n hn
    have htaken := List.takeWhile_prefix (fun d : CodePoint => c.holds d.toNat) (l := ahead text p)
    have hpasses := List.mem_takeWhile_imp (p := fun d : CodePoint => c.holds d.toNat)
      (List.getElem_mem hn)
    refine hk (p.skip n) ⟨_, ?_, hpasses⟩
    rw [Progress.ahead_skip, List.head?_drop, Option.mem_def,
      List.getElem?_eq_getElem (hn.trans_le htaken.length_le), ← htaken.getElem hn]
  rw [run_many_of_last fun n hn _ => hfewer n hn]
  constructor
  · intro h
    obtain ⟨hleast, hr⟩ := Option.ite_none_right_eq_some.1 h
    obtain ⟨hahead, hfront, hrest⟩ := span_eq_iff.1 ⟨rfl, rfl⟩
    exact ⟨_, _, hahead, ⟨hleast, hfront, hrest⟩, hr⟩
  · rintro ⟨front, rest, hahead, ⟨hleast, hfront, hrest⟩, hr⟩
    have hreach : reach text c p = front.length := by
      unfold reach
      rw [(span_eq_iff.2 ⟨hahead, hfront, hrest⟩).1]
    rw [hreach, if_pos hleast, hr]

/-- A row of tests takes one character for each. -/
theorem testRow (tests : List CharTest) :
    Committed text (Pattern.testRow tests) (fun front _ => Passes tests front) nothing := by
  intro p k r _
  rw [run_testRow_iff]
  constructor
  · rintro ⟨front, ⟨rest, hahead⟩, hpasses, hr⟩
    rw [hpasses.length_eq] at hr
    exact ⟨front, rest, hahead.symm, hpasses, hr⟩
  · rintro ⟨front, rest, hahead, hpasses, hr⟩
    refine ⟨front, ⟨rest, hahead.symm⟩, hpasses, ?_⟩
    rw [hpasses.length_eq]
    exact hr

/-- Behind some parts come others that reject what has to be refused behind the first ones. -/
theorem append {parts parts' : List (Tree Step)} (h : Committed text (.ofList parts) takes bad)
    (h' : Committed text (.ofList parts') takes' bad') (hrejects : Rejects text (.ofList parts') bad) :
    Committed text (.ofList (parts ++ parts')) (Then takes takes') bad' := by
  intro p k r hk
  rw [run_ofList_append]
  exact h.seq h' hrejects p k r hk

/-- One part alone. -/
theorem single (h : Committed text t takes bad) : Committed text (.ofList [t]) takes bad := h

/-! ## §2 Readers -/

variable {read : List CodePoint → Option (List CodePoint × List CodePoint)} {p : Progress}
    {k : Continuation}

/-- A part goes on behind the characters that a reader takes off the front. -/
theorem run_eq (h : Committed text t takes bad)
    (hread : ∀ s front rest, read s = some (front, rest) ↔ s = front ++ rest ∧ takes front rest)
    (hk : Refuses text k bad) :
    t.run text p k = (read (ahead text p)).bind fun taken => k (p.skip taken.1.length) := by
  refine Option.ext fun r => ?_
  rw [h p k r hk, Option.bind_eq_some_iff]
  simp only [Prod.exists, hread, and_assoc]

/-- A group captures the characters that a reader takes off the front. -/
theorem run_group (h : Committed text t takes bad) (g : Nat) (on off : Flags)
    (hread : ∀ s front rest, read s = some (front, rest) ↔ s = front ++ rest ∧ takes front rest)
    (hk : Refuses text k bad) :
    (Tree.group (some g) on off t).run text p k
      = (read (ahead text p)).bind fun taken => k (p.capture g taken.1.length) := by
  have hclosed : Refuses text (fun q => k (q.closed g)) bad := fun q hq => hk (q.closed g) hq
  exact h.run_eq hread hclosed

end Committed

end Committed

end LogViewer.Pattern
