import LogViewer.Proofs.Lists
import LogViewer.Proofs.Pattern.Searching

/-!
# Rounds of one character

A repetition of one character can take as many rounds as characters ahead pass its test one after
the other. A greedy repetition tries what follows behind the greatest number of rounds first, and a
lazy one behind the least number. What a match has reached is described by the characters that are
still ahead and by the texts of the groups.

## Main definitions

- `ahead`: the characters from a position on
- `Progress.captured`: the text of a group
- `Reached`: what is ahead, and what groups have captured
- `one`, `many`, `few`: one character, and its greedy and lazy repetitions
- `reach`, `rounds`: how many rounds there can be

## Main statements

- `Reached.skip`, `Reached.capture`: what is reached behind some characters
- `run_many`, `run_few`: the order in which numbers of rounds are tried
- `run_many_of_last`, `run_few_eq_some_iff`: what the repetitions give
-/

namespace LogViewer.Pattern

/-! ## §1 What is ahead -/

/-- The characters from a position on. -/
def ahead (text : Subject) (p : Progress) : List CodePoint := text.toList.drop p.position

/-- A position in the text or at its end. -/
def Inside (text : Subject) (p : Progress) : Prop := p.position ≤ text.size

namespace Progress

/-- Some characters further on. -/
def skip (p : Progress) (n : Nat) : Progress := { p with position := p.position + n }

/-- Some characters further on, which are the text of a group. -/
def capture (p : Progress) (group n : Nat) : Progress := ((p.opened group).skip n).closed group

/-- The text of a group, which is empty if the group has not matched. -/
def captured (text : Subject) (p : Progress) (group : Nat) : List CodePoint :=
  match p.span? group with
  | some (start, stop) => (text.toList.drop start).take (stop - start)
  | none => []

theorem marks_setMarks (p : Progress) (group other : Nat) (m : Marks) :
    (p.setMarks group m).marks other = if other = group then m else p.marks other := by
  unfold marks setMarks
  rw [lookup_replaced]
  by_cases h : other = group <;> simp [h]

/-- A captured group starts and ends where it was captured; other groups stay. -/
theorem marks_capture (p : Progress) (group other n : Nat) :
    (p.capture group n).marks other
      = if other = group then ⟨some p.position, some (p.position + n)⟩ else p.marks other := by
  have hopened : ((p.opened group).skip n).marks other
      = if other = group then { p.marks group with start := some p.position } else p.marks other :=
    p.marks_setMarks group other _
  have hself : ((p.opened group).skip n).marks group
      = { p.marks group with start := some p.position } := by
    rw [show ((p.opened group).skip n).marks group = (p.opened group).marks group from rfl, opened,
      marks_setMarks, if_pos rfl]
  unfold capture closed
  rw [marks_setMarks, hopened, hself]
  split <;> rfl

@[simp] theorem skip_zero (p : Progress) : p.skip 0 = p := rfl

theorem skip_skip (p : Progress) (n m : Nat) : (p.skip n).skip m = p.skip (n + m) := by
  simp [skip, Nat.add_assoc]

variable {text : Subject}

@[simp] theorem ahead_skip (p : Progress) (n : Nat) :
    ahead text (p.skip n) = (ahead text p).drop n := by
  simp [ahead, skip, List.drop_drop]

@[simp] theorem ahead_opened (p : Progress) (group : Nat) :
    ahead text (p.opened group) = ahead text p := rfl

@[simp] theorem ahead_closed (p : Progress) (group : Nat) :
    ahead text (p.closed group) = ahead text p := rfl

@[simp] theorem ahead_capture (p : Progress) (group n : Nat) :
    ahead text (p.capture group n) = (ahead text p).drop n := by
  simp [capture]

@[simp] theorem captured_capture_self (p : Progress) (group n : Nat) :
    (p.capture group n).captured text group = (ahead text p).take n := by
  have hspan : (p.capture group n).span? group = some (p.position, p.position + n) := by
    simp [span?, marks_capture]
  simp [captured, hspan, ahead]

theorem captured_capture_of_ne {group other : Nat} (h : other ≠ group) (p : Progress) (n : Nat) :
    (p.capture group n).captured text other = p.captured text other := by
  simp [captured, span?, marks_capture, h]

end Progress

/-- Behind characters of the text there is a position in it or at its end. -/
theorem Inside.skip {text : Subject} {p : Progress} {n : Nat} (h : Inside text p)
    (hn : n ≤ (ahead text p).length) : Inside text (p.skip n) := by
  have hlength : (ahead text p).length = text.size - p.position := by simp [ahead]
  have hle : p.position ≤ text.size := h
  have hskip : (p.skip n).position = p.position + n := rfl
  unfold Inside
  omega

/-- What is left of a text, and what some groups have captured of it. -/
structure Reached (text : Subject) (p : Progress) (rest : List CodePoint)
    (groups : List (Nat × List CodePoint)) : Prop where
  inside : Inside text p
  ahead_eq : ahead text p = rest
  captured_eq : ∀ pair ∈ groups, p.captured text pair.1 = pair.2

namespace Reached

variable {text : Subject} {p : Progress} {front rest s : List CodePoint}
    {groups : List (Nat × List CodePoint)}

theorem start (text : Subject) : Reached text ⟨0, []⟩ text.toList [] :=
  ⟨Nat.zero_le _, rfl, fun _ h => absurd h List.not_mem_nil⟩

/-- What is left does not depend on the groups. -/
theorem forget (h : Reached text p s groups) : Reached text p s [] :=
  ⟨h.inside, h.ahead_eq, fun _ h => absurd h List.not_mem_nil⟩

theorem skip_drop (h : Reached text p s groups) {n : Nat} (hn : n ≤ s.length) :
    Reached text (p.skip n) (s.drop n) groups := by
  refine ⟨h.inside.skip (h.ahead_eq ▸ hn), ?_, h.captured_eq⟩
  rw [Progress.ahead_skip, h.ahead_eq]

theorem skip (h : Reached text p (front ++ rest) groups) :
    Reached text (p.skip front.length) rest groups := by
  have hskip := h.skip_drop (List.length_append ▸ Nat.le_add_right ..)
  rwa [List.drop_left] at hskip

theorem capture_drop (h : Reached text p s groups) {n : Nat} (hn : n ≤ s.length) (g : Nat) :
    Reached text (p.capture g n) (s.drop n) [] := by
  refine ⟨(h.skip_drop hn).inside, ?_, fun _ h => absurd h List.not_mem_nil⟩
  rw [Progress.ahead_capture, h.ahead_eq]

/-- A group that has not captured yet captures what is in front. -/
theorem capture (h : Reached text p (front ++ rest) groups) {g : Nat}
    (hg : ∀ pair ∈ groups, pair.1 ≠ g) :
    Reached text (p.capture g front.length) rest ((g, front) :: groups) := by
  refine ⟨h.skip.inside, ?_, fun pair hpair => ?_⟩
  · rw [Progress.ahead_capture, h.ahead_eq, List.drop_left]
  · rcases List.mem_cons.1 hpair with rfl | hpair
    · rw [Progress.captured_capture_self, h.ahead_eq, List.take_left]
    · rw [Progress.captured_capture_of_ne (hg pair hpair), h.captured_eq pair hpair]

end Reached

/-! ## §2 Rounds of one character -/

/-- A part that takes one character. -/
def one (t : CharTest) : Tree Step := .leaf (.char t)

/-- A part that takes as many characters as it can, but gives them back if it has to. -/
def many (least : Nat) (t : CharTest) : Tree Step := .iterate .greedy least none (one t)

/-- A part that takes as few characters as it can, but goes on if it has to. -/
def few (least : Nat) (t : CharTest) : Tree Step := .iterate .lazy least none (one t)

/-- How many characters ahead pass a test one after the other. -/
def reach (text : Subject) (t : CharTest) (p : Progress) : Nat :=
  ((ahead text p).takeWhile fun c => t.holds c.toNat).length

/-- The numbers of further rounds after `count` rounds, of which there can be `most`. -/
def rounds (least count most : Nat) : List Nat :=
  (List.range (most + 1)).filter fun n => least ≤ count + n

section Rounds

variable {text : Subject} {t : CharTest} {p : Progress} {k : Continuation}

@[simp] theorem holds_noLineFeed (c : CodePoint) :
    CharTest.noLineFeed.holds c.toNat = (c != '\n') := by
  have hcode : CharTest.noLineFeed.holds c.toNat = (c.toNat != '\n'.toNat) := rfl
  rw [hcode, Bool.eq_iff_iff, bne_iff_ne, bne_iff_ne, Ne, Ne, ← CodePoint.toNat_inj]
  rfl

theorem head?_ahead (text : Subject) (p : Progress) :
    (ahead text p).head? = text[p.position]? := by
  simp [ahead, List.head?_drop]

/-- One character is taken if it passes the test. -/
theorem run_one : (one t).run text p k
    = match (ahead text p).head? with
      | some c => if t.holds c.toNat then k (p.skip 1) else none
      | none => none := by
  have hrun : (one t).run text p k = ((Step.char t).next? text p).bind k := rfl
  rw [hrun, Step.next?, head?_ahead]
  cases text[p.position]? with
  | none => rfl
  | some c => cases hc : t.holds c.toNat <;> simp [hc, Progress.skip]

/-- Where nothing can be taken, a part that takes one character fails. -/
theorem run_one_of_reach_eq_zero (h : reach text t p = 0) : (one t).run text p k = none := by
  rw [run_one]
  unfold reach at h
  cases hahead : ahead text p with
  | nil => rfl
  | cons c cs =>
    rw [hahead] at h
    cases hc : t.holds c.toNat with
    | false => simp [hc]
    | true => simp [hc] at h

/-- Where something can be taken, a part that takes one character goes on behind the character. -/
theorem run_one_of_reach_ne_zero (h : reach text t p ≠ 0) :
    (one t).run text p k = k (p.skip 1) := by
  rw [run_one]
  unfold reach at h
  cases hahead : ahead text p with
  | nil => simp [hahead] at h
  | cons c cs =>
    rw [hahead] at h
    cases hc : t.holds c.toNat with
    | false => simp [hc] at h
    | true => simp [hc]

/-- Behind a character that was taken there is one less to take. -/
theorem reach_skip_one {n : Nat} (h : reach text t p = n + 1) : reach text t (p.skip 1) = n := by
  unfold reach at h ⊢
  rw [Progress.ahead_skip]
  cases hahead : ahead text p with
  | nil => simp [hahead] at h
  | cons c cs =>
    rw [hahead] at h
    cases hc : t.holds c.toNat with
    | false => simp [hc] at h
    | true => simpa [hc] using h

theorem rounds_zero (least count : Nat) :
    rounds least count 0 = if least ≤ count then [0] else [] := by
  by_cases h : least ≤ count <;> simp [rounds, h]

theorem rounds_succ (least count most : Nat) :
    rounds least count (most + 1)
      = (if least ≤ count then [0] else []) ++ (rounds least (count + 1) most).map (· + 1) := by
  have hshift : ((fun n => decide (least ≤ count + n)) ∘ Nat.succ)
      = fun n => decide (least ≤ count + 1 + n) := by
    funext n
    rw [Function.comp_apply, Nat.succ_eq_add_one]
    congr 2
    omega
  unfold rounds
  rw [List.range_succ_eq_map, List.filter_cons, List.filter_map, hshift]
  by_cases h : least ≤ count <;> simp [h]

/-- Rounds behind a first one count from the position behind it. -/
theorem findSome?_map_succ (ns : List Nat) :
    (ns.map (· + 1)).findSome? (fun n => k (p.skip n))
      = ns.findSome? fun n => k ((p.skip 1).skip n) := by
  rw [List.findSome?_map]
  congr 1
  funext n
  rw [Progress.skip_skip, Function.comp_apply, Nat.add_comm]

/-- The latest optional round, if there was one, began before a position. -/
def Earlier (last : Option Nat) (p : Progress) : Prop := ∀ i ∈ last, i < p.position

namespace Earlier

variable {last : Option Nat}

theorem none (p : Progress) : Earlier none p := by
  rintro i ⟨⟩

theorem skip (h : Earlier last p) : Earlier last (p.skip 1) :=
  fun i hi => (h i hi).trans (Nat.lt_succ_self _)

theorem self (p : Progress) : Earlier (some p.position) (p.skip 1) := by
  rintro i ⟨⟩
  exact Nat.lt_succ_self _

/-- The position has moved since the latest round, so another one is allowed. -/
theorem bne (h : Earlier last p) : (last != some p.position) = true := by
  rw [bne_iff_ne]
  rintro rfl
  exact absurd (h _ rfl) (Nat.lt_irrefl _)

end Earlier

/-- Rounds that prefer to go on try what follows behind the greatest number of them first. -/
theorem greedyRounds_eq {least fuel count : Nat} {last : Option Nat} (hfuel : reach text t p < fuel)
    (hlast : Earlier last p) :
    greedyRounds ((one t).run text) k least none fuel count last p
      = (rounds least count (reach text t p)).reverse.findSome? fun n => k (p.skip n) := by
  -- A round uses up one character and one unit of fuel, so the fuel never runs out.
  induction fuel generalizing count last p with
  | zero => omega
  | succ fuel ih =>
    rw [greedyRounds]
    cases hreach : reach text t p with
    | zero =>
      rw [run_one_of_reach_eq_zero hreach, run_one_of_reach_eq_zero hreach, rounds_zero]
      by_cases hcount : count < least
      · simp [hcount, Nat.not_le.2 hcount]
      · simp [hcount, Nat.not_lt.1 hcount, allows, hlast.bne]
    | succ n =>
      have hrest := reach_skip_one hreach
      have hne : reach text t p ≠ 0 := by omega
      have hfuel : reach text t (p.skip 1) < fuel := by omega
      rw [run_one_of_reach_ne_zero hne, run_one_of_reach_ne_zero hne, ih hfuel hlast.skip,
        ih hfuel (.self p), hrest, rounds_succ, List.reverse_append, ← List.map_reverse,
        List.findSome?_append, findSome?_map_succ]
      by_cases hcount : count < least
      · simp [hcount, Nat.not_le.2 hcount]
      · simp [hcount, Nat.not_lt.1 hcount, allows, hlast.bne]

/-- Rounds that prefer to stop try what follows behind the least number of them first. -/
theorem lazyRounds_eq {least fuel count : Nat} {last : Option Nat} (hfuel : reach text t p < fuel)
    (hlast : Earlier last p) :
    lazyRounds ((one t).run text) k least none fuel count last p
      = (rounds least count (reach text t p)).findSome? fun n => k (p.skip n) := by
  induction fuel generalizing count last p with
  | zero => omega
  | succ fuel ih =>
    rw [lazyRounds]
    cases hreach : reach text t p with
    | zero =>
      rw [run_one_of_reach_eq_zero hreach, run_one_of_reach_eq_zero hreach, rounds_zero]
      by_cases hcount : count < least
      · simp [hcount, Nat.not_le.2 hcount]
      · simp [hcount, Nat.not_lt.1 hcount]
    | succ n =>
      have hrest := reach_skip_one hreach
      have hne : reach text t p ≠ 0 := by omega
      have hfuel : reach text t (p.skip 1) < fuel := by omega
      rw [run_one_of_reach_ne_zero hne, run_one_of_reach_ne_zero hne, ih hfuel hlast.skip,
        ih hfuel (.self p), hrest, rounds_succ, List.findSome?_append, findSome?_map_succ]
      by_cases hcount : count < least
      · simp [hcount, Nat.not_le.2 hcount]
      · simp [hcount, Nat.not_lt.1 hcount, allows, hlast.bne]

theorem reach_lt_roundFuel (least : Nat) : reach text t p < roundFuel text least := by
  have hle : reach text t p ≤ text.size := by
    calc reach text t p ≤ (ahead text p).length := (List.takeWhile_prefix _).length_le
      _ = text.size - p.position := by simp [ahead]
      _ ≤ text.size := Nat.sub_le ..
  unfold roundFuel
  omega

/-- As many characters as possible are taken first. -/
theorem run_many {least : Nat} : (many least t).run text p k
    = (rounds least 0 (reach text t p)).reverse.findSome? fun n => k (p.skip n) :=
  greedyRounds_eq (reach_lt_roundFuel least) (.none p)

/-- As few characters as possible are taken first. -/
theorem run_few {least : Nat} : (few least t).run text p k
    = (rounds least 0 (reach text t p)).findSome? fun n => k (p.skip n) :=
  lazyRounds_eq (reach_lt_roundFuel least) (.none p)

/-- If what follows fails behind fewer characters than possible whenever it fails behind all of
them, nothing is gained by giving characters back. -/
theorem run_many_of_last {least : Nat}
    (h : ∀ n < reach text t p, k (p.skip (reach text t p)) = none → k (p.skip n) = none) :
    (many least t).run text p k
      = if least ≤ reach text t p then k (p.skip (reach text t p)) else none := by
  have hrounds : rounds least 0 (reach text t p)
      = ((List.range (reach text t p)).filter fun n => least ≤ n)
        ++ if least ≤ reach text t p then [reach text t p] else [] := by
    simp [rounds, List.range_succ, List.filter_append, List.filter_singleton]
  rw [run_many, hrounds, List.reverse_append, List.findSome?_append]
  -- The most characters are tried first; if that fails, so do all that are tried after it.
  by_cases hleast : least ≤ reach text t p
  · rw [if_pos hleast, if_pos hleast, List.reverse_singleton, List.findSome?_singleton]
    cases hlast : k (p.skip (reach text t p)) with
    | some r => rfl
    | none =>
      rw [Option.none_or, List.findSome?_eq_none_iff]
      intro n hn
      rw [List.mem_reverse, List.mem_filter, List.mem_range] at hn
      exact h n hn.1 hlast
  · have hnil : (List.range (reach text t p)).filter (fun n => decide (least ≤ n)) = [] := by
      refine List.filter_eq_nil_iff.2 fun n hn => ?_
      rw [List.mem_range] at hn
      rw [decide_eq_true_eq]
      omega
    rw [if_neg hleast, if_neg hleast, hnil]
    rfl

theorem mem_rounds {least most n : Nat} : n ∈ rounds least 0 most ↔ n ≤ most ∧ least ≤ n := by
  rw [rounds, List.mem_filter, List.mem_range, Nat.lt_succ_iff, decide_eq_true_eq, Nat.zero_add]

theorem pairwise_rounds (least count most : Nat) : (rounds least count most).Pairwise (· < ·) :=
  List.Pairwise.filter _ List.pairwise_lt_range

/-- The fewest characters are taken behind which what follows goes on. -/
theorem run_few_eq_some_iff {least : Nat} {r : Progress} :
    (few least t).run text p k = some r ↔ ∃ front rest, ahead text p = front ++ rest ∧
      (∀ c ∈ front, t.holds c.toNat = true) ∧ least ≤ front.length ∧
      k (p.skip front.length) = some r ∧
      ∀ m < front.length, least ≤ m → k (p.skip m) = none := by
  -- The rounds are tried in ascending order.
  rw [run_few, findSome?_eq_some_iff_of_pairwise (pairwise_rounds ..)]
  have htaken := List.takeWhile_prefix (fun c : CodePoint => t.holds c.toNat) (l := ahead text p)
  constructor
  · rintro ⟨n, hn, hk, hless⟩
    obtain ⟨hmost, hleast⟩ := mem_rounds.1 hn
    have hlength : ((ahead text p).take n).length = n :=
      List.length_take_of_le (hmost.trans htaken.length_le)
    refine ⟨(ahead text p).take n, (ahead text p).drop n, (List.take_append_drop ..).symm, ?_, ?_⟩
    · -- What is taken is the beginning of the characters that could be taken.
      intro c hc
      have hwithin : (ahead text p).take n <+: (ahead text p).takeWhile fun c => t.holds c.toNat :=
        List.prefix_of_prefix_length_le (List.take_prefix ..) htaken (hlength.trans_le hmost)
      exact List.mem_takeWhile_imp (p := fun c : CodePoint => t.holds c.toNat) (hwithin.subset hc)
    · rw [hlength]
      exact ⟨hleast, hk, fun m hm hle => hless m (mem_rounds.2 ⟨hm.le.trans hmost, hle⟩) hm⟩
  · rintro ⟨front, rest, hahead, hfront, hleast, hk, hless⟩
    have hmost : front.length ≤ reach text t p := by
      unfold reach
      rw [hahead, List.takeWhile_append_of_pos hfront, List.length_append]
      exact Nat.le_add_right ..
    exact ⟨front.length, mem_rounds.2 ⟨hmost, hleast⟩, hk,
      fun m hm hlt => hless m hlt (mem_rounds.1 hm).2⟩

end Rounds

end LogViewer.Pattern
