import LogViewer.Store
import LogViewer.Proofs.Outcomes
import Mathlib.Data.List.Induction
import Mathlib.Data.List.DropRight

/-!
# Runs of a message store

A run is a list of operations on a store. Messages leave a store at its front only, or all at once
when it is cleared. An operation that drops messages answers how many they were, so the messages
that went in are those that are there, those that were dropped and those that were cleared.

## Main definitions

- `Store.Op`, `Store.perform`, `Store.run`: the operations, one of them and a run of them
- `Store.sinceClear`: the messages that went in since the store was cleared
- `Store.dropped`, `Store.cleared`: how many messages left the store

## Main statements

- `Store.perform_split`: what an operation answers is what left the store at its front
- `Store.append_eq_extend`: one message more is a batch of one message
- `Store.extend_extend`: two batches are one batch
- `Store.accounts`: what a store holds and has dropped after a run
-/

namespace LogViewer

/-! ## §1 The last items of a list -/

/-- What falls off the front would also fall off later. -/
theorem keepLast_keepLast_append {α : Type} (n : Nat) (xs ys : List α) :
    keepLast n (keepLast n xs ++ ys) = keepLast n (xs ++ ys) := by
  have hlength : (keepLast n xs).length = xs.length - (xs.length - n) := by
    rw [length_keepLast]
    omega
  unfold keepLast at hlength ⊢
  rw [List.length_append, List.length_append, hlength]
  by_cases hxs : xs.length ≤ n
  · -- Nothing has fallen off yet.
    have hnone : xs.length - n = 0 := by omega
    simp only [hnone, List.drop_zero, Nat.sub_zero]
  · -- What is left of the first list is as long as allowed.
    have hfirst : (xs.length - n) ≤ xs.length := by omega
    have hmore : xs.length + ys.length - n
        = (xs.length - n) + (xs.length - (xs.length - n) + ys.length - n) := by omega
    rw [hmore, ← List.drop_drop, List.drop_append_of_le_length hfirst]

namespace Store

/-! ## §2 Operations -/

/-- An operation on a store. -/
inductive Op where
  | append (m : Message)
  | extend (batch : List Message)
  | resize (n : Int)
  | clear

/-- What an operation answers. -/
inductive Answer where
  /-- How many messages fell off the front. -/
  | dropped (count : Nat)
  | nothing
  | refused (e : CapacityError)
deriving DecidableEq, Repr

/-- The store after an operation, and the answer. A resize that is refused leaves the store as it
is. -/
def perform (s : Store) : Op → Store × Answer
  | .append m => ((s.append m).1, .dropped (s.append m).2)
  | .extend batch => ((s.extend batch).1, .dropped (s.extend batch).2)
  | .resize n =>
    match s.resize n with
    | .ok (s, count) => (s, .dropped count)
    | .error e => (s, .refused e)
  | .clear => (s.clear, .nothing)

/-- The store after some operations. -/
def run (s : Store) (ops : List Op) : Store := ops.foldl (fun s op => (s.perform op).1) s

/-- The messages that an operation puts in. -/
def Op.added : Op → List Message
  | .append m => [m]
  | .extend batch => batch
  | .resize _ => []
  | .clear => []

/-- Whether an operation clears the store. -/
def Op.clears : Op → Bool
  | .clear => true
  | _ => false

/-- The messages that went in since the store was cleared, or since the start. -/
def sinceClear (ops : List Op) : List Message :=
  (ops.rtakeWhile fun op => !op.clears).flatMap Op.added

/-- How many messages an answer says were dropped. -/
def Answer.count : Answer → Nat
  | dropped count => count
  | _ => 0

/-- How many messages the answers of a run say were dropped. -/
def dropped (s : Store) : List Op → Nat
  | [] => 0
  | op :: ops => (s.perform op).2.count + dropped (s.perform op).1 ops

/-- How many messages were removed by clearing the store in a run. -/
def cleared (s : Store) : List Op → Nat
  | [] => 0
  | op :: ops => (if op.clears then s.size else 0) + cleared (s.perform op).1 ops

@[simp] theorem run_nil (s : Store) : s.run [] = s := rfl

@[simp] theorem run_cons (s : Store) (op : Op) (ops : List Op) :
    s.run (op :: ops) = (s.perform op).1.run ops := rfl

@[simp] theorem run_concat (s : Store) (ops : List Op) (op : Op) :
    s.run (ops ++ [op]) = ((s.run ops).perform op).1 := by
  unfold run
  rw [List.foldl_append, List.foldl_cons, List.foldl_nil]

/-! ## §3 One operation -/

/-- One message more is a batch of one message. -/
theorem append_eq_extend (s : Store) (m : Message) : s.append m = s.extend [m] := by
  have hle := s.length_le
  unfold append extend keepLast
  split
  · next hfull =>
    have hpos := s.capacity_pos
    -- Exactly the first message does not fit.
    have hone : (s.messages ++ [m]).length - s.capacity = 1 := by
      simp
      omega
    simp only [hone, List.drop_append_of_le_length (hfull ▸ hpos)]
  · next hroom =>
    have hnone : (s.messages ++ [m]).length - s.capacity = 0 := by
      simp
      omega
    simp only [hnone, List.drop_zero]

/-- Two batches are one batch. -/
theorem extend_extend (s : Store) (first second : List Message) :
    ((s.extend first).1.extend second).1 = (s.extend (first ++ second)).1 := by
  simp only [extend, keepLast_keepLast_append, List.append_assoc]

/-- Messages that are put in push out what does not fit. -/
theorem extend_split (s : Store) (batch : List Message) :
    ∃ fallen, fallen.length = (s.extend batch).2 ∧
      s.messages ++ batch = fallen ++ (s.extend batch).1.messages := by
  refine ⟨(s.messages ++ batch).take (s.extend batch).2, ?_, ?_⟩
  · rw [List.length_take]
    exact Nat.min_eq_left (Nat.sub_le ..)
  · exact (List.take_append_drop ..).symm

/-- A number is a capacity if it is positive and below the bound. -/
theorem capacityOf_eq_ok {n : Int} {c : { c : Nat // 0 < c }} (h : capacityOf n = .ok c) :
    n = c.1 ∧ c.1 < capacityBound := by
  unfold capacityOf at h
  split at h
  · cases h
  · split at h
    · cases h
    · next hpos hbound =>
      cases h
      exact ⟨(Int.toNat_of_nonneg (by omega)).symm, Nat.lt_of_not_le hbound⟩

/-- A new capacity drops what no longer fits, and a number that is no capacity changes nothing. -/
theorem perform_resize_cases (s : Store) (n : Int) :
    (n < 1 ∧ s.perform (.resize n) = (s, .refused (.tooSmall n))) ∨
    ((capacityBound : Int) ≤ n ∧ s.perform (.resize n) = (s, .refused .tooLarge)) ∨
    ∃ c : Nat, n = c ∧ 0 < c ∧ c < capacityBound ∧ (s.perform (.resize n)).1.capacity = c ∧
      (s.perform (.resize n)).1.messages = keepLast c s.messages ∧
      (s.perform (.resize n)).2 = .dropped (s.size - c) := by
  by_cases hsmall : n < 1
  · left
    refine ⟨hsmall, ?_⟩
    simp [perform, resize, capacityOf, hsmall, Except.map]
  · right
    by_cases hlarge : capacityBound ≤ n.toNat
    · left
      refine ⟨by omega, ?_⟩
      simp [perform, resize, capacityOf, hsmall, hlarge, Except.map]
    · right
      refine ⟨n.toNat, by omega, by omega, by omega, ?_⟩
      simp [perform, resize, capacityOf, hsmall, hlarge, Except.map, size]

/-- An operation clears the store, or it is refused, or it answers how many messages left the store
at its front: all others that were there or were put in are there afterwards, in order. -/
theorem perform_cases (s : Store) (op : Op) :
    (op.clears = true ∧ op.added = [] ∧ s.perform op = (s.clear, .nothing)) ∨
    (op.clears = false ∧ op.added = [] ∧ ∃ e, s.perform op = (s, .refused e)) ∨
    (op.clears = false ∧ ∃ fallen, (s.perform op).2 = .dropped fallen.length ∧
      s.messages ++ op.added = fallen ++ (s.perform op).1.messages) := by
  cases op with
  | append m =>
    obtain ⟨fallen, hcount, hsplit⟩ := s.extend_split [m]
    rw [← append_eq_extend] at hcount hsplit
    exact .inr (.inr ⟨rfl, fallen, congrArg Answer.dropped hcount.symm, hsplit⟩)
  | extend batch =>
    obtain ⟨fallen, hcount, hsplit⟩ := s.extend_split batch
    exact .inr (.inr ⟨rfl, fallen, congrArg Answer.dropped hcount.symm, hsplit⟩)
  | clear => exact .inl ⟨rfl, rfl, rfl⟩
  | resize n =>
    right
    rcases s.perform_resize_cases n with ⟨_, hsame⟩ | ⟨_, hsame⟩ | ⟨c, _, _, _, _, hkept, hcount⟩
    · exact .inl ⟨rfl, rfl, _, hsame⟩
    · exact .inl ⟨rfl, rfl, _, hsame⟩
    · right
      -- What does not fit any more falls off at the front.
      refine ⟨rfl, s.messages.take (s.size - c), ?_, ?_⟩
      · have hlength : s.size - c ≤ s.messages.length := Nat.sub_le ..
        rw [hcount, List.length_take, Nat.min_eq_left hlength]
      · rw [hkept, Op.added, List.append_nil]
        exact (List.take_append_drop ..).symm

/-- What an operation answers is how many messages left the store at its front. -/
theorem perform_split {s : Store} {op : Op} {count : Nat} (h : (s.perform op).2 = .dropped count) :
    ∃ fallen, fallen.length = count ∧
      s.messages ++ op.added = fallen ++ (s.perform op).1.messages := by
  rcases s.perform_cases op with ⟨_, _, hclear⟩ | ⟨_, _, e, hsame⟩ | ⟨_, fallen, hcount, hsplit⟩
  · rw [hclear] at h
    cases h
  · rw [hsame] at h
    cases h
  · rw [hcount] at h
    cases h
    exact ⟨fallen, rfl, hsplit⟩

/-- An operation that does not clear the store leaves the end of what was there and was put in. -/
theorem perform_suffix (s : Store) {op : Op} (h : op.clears = false) :
    (s.perform op).1.messages <:+ s.messages ++ op.added := by
  rcases s.perform_cases op with ⟨hclears, _⟩ | ⟨_, hadded, e, hsame⟩ | ⟨_, fallen, _, hsplit⟩
  · rw [h] at hclears
    cases hclears
  · refine ⟨[], ?_⟩
    rw [hsame, hadded, List.append_nil, List.nil_append]
  · exact ⟨fallen, hsplit.symm⟩

/-- What was there and was put in is there afterwards, was dropped or was cleared. -/
theorem perform_balance (s : Store) (op : Op) :
    s.size + op.added.length = (s.perform op).1.size + (s.perform op).2.count
      + (if op.clears then s.size else 0) := by
  rcases s.perform_cases op with ⟨hclears, hadded, hclear⟩ | ⟨hclears, hadded, e, hsame⟩ |
    ⟨hclears, fallen, hcount, hsplit⟩
  · rw [hclear, hadded, hclears]
    simp [clear, empty, size, Answer.count]
  · rw [hsame, hadded, hclears]
    simp [Answer.count]
  · have hlength := congrArg List.length hsplit
    rw [List.length_append, List.length_append] at hlength
    rw [hcount, hclears]
    simp only [size, Answer.count, Bool.false_eq_true, if_false]
    omega

/-- A message more pushes out one message exactly if the store is full. -/
theorem append_count (s : Store) (m : Message) :
    (s.append m).2 = if s.size = s.capacity then 1 else 0 := by
  unfold append size
  split <;> rfl

/-- A store is filled up to its capacity. -/
theorem size_extend (s : Store) (batch : List Message) :
    (s.extend batch).1.size = min s.capacity (s.size + batch.length) := by
  unfold extend size
  rw [length_keepLast, List.length_append]

/-- Resizing leaves what fits. -/
theorem size_resize {s : Store} (hs : s.capacity < capacityBound) {n : Int} (hn : 1 ≤ n) :
    ((s.perform (.resize n)).1.size : Int) = min n s.size := by
  have hsize : s.size ≤ s.capacity := s.length_le
  rcases s.perform_resize_cases n with ⟨hsmall, _⟩ | ⟨hlarge, hsame⟩ | ⟨c, rfl, _, _, _, hkept, _⟩
  · omega
  · -- No store has as many messages as a number that is too large.
    have hsame' : (s.perform (.resize n)).1.size = s.size := by rw [hsame]
    rw [hsame']
    omega
  · have hleft : (s.perform (.resize c)).1.size = min c s.size := by
      unfold size
      rw [hkept, length_keepLast]
    rw [hleft]
    omega

/-- The capacity of a store stays below the bound. -/
theorem capacity_perform {s : Store} (hs : s.capacity < capacityBound) (op : Op) :
    (s.perform op).1.capacity < capacityBound := by
  cases op with
  | append m =>
    rw [perform, append_eq_extend]
    exact hs
  | extend batch => exact hs
  | clear => exact hs
  | resize n =>
    rcases s.perform_resize_cases n with ⟨_, hsame⟩ | ⟨_, hsame⟩ | ⟨c, _, _, hc, hcapacity, _⟩
    · rw [hsame]
      exact hs
    · rw [hsame]
      exact hs
    · rw [hcapacity]
      exact hc

/-! ## §4 Whole runs -/

/-- Messages that went in since the store was cleared, with one operation more. -/
theorem sinceClear_concat (ops : List Op) (op : Op) :
    sinceClear (ops ++ [op]) = if op.clears then [] else sinceClear ops ++ op.added := by
  unfold sinceClear
  cases hclears : op.clears with
  | true =>
    rw [List.rtakeWhile_concat_neg _ _ _ (by simp [hclears])]
    rfl
  | false =>
    rw [List.rtakeWhile_concat_pos _ _ _ (by simp [hclears])]
    simp

/-- A store that was empty at first holds the end of what went in since it was cleared. -/
theorem suffix_sinceClear {s : Store} (hs : s.messages = []) (ops : List Op) :
    (s.run ops).messages <:+ sinceClear ops := by
  -- Induction from the end of the run: an operation that clears the store starts anew.
  induction ops using List.reverseRecOn with
  | nil =>
    rw [run_nil, hs]
    exact List.nil_suffix
  | append_singleton ops op ih =>
    rw [run_concat, sinceClear_concat]
    cases hclears : op.clears with
    | true =>
      have hclear : op = .clear := by
        cases op with
        | clear => rfl
        | _ => cases hclears
      subst hclear
      exact List.suffix_refl _
    | false =>
      obtain ⟨front, hfront⟩ := ih
      refine (perform_suffix _ hclears).trans ⟨front, ?_⟩
      rw [← List.append_assoc, hfront]
      rfl

/-- What was there and went in is there afterwards, was dropped or was cleared. -/
theorem run_balance (s : Store) (ops : List Op) :
    s.size + (ops.flatMap Op.added).length = (s.run ops).size + s.dropped ops + s.cleared ops := by
  induction ops generalizing s with
  | nil => rfl
  | cons op ops ih =>
    have hstep := s.perform_balance op
    have hrest := ih (s.perform op).1
    rw [List.flatMap_cons, List.length_append, run_cons, dropped, cleared]
    omega

/-- The capacity of a store stays below the bound in a run. -/
theorem capacity_run {s : Store} (hs : s.capacity < capacityBound) (ops : List Op) :
    (s.run ops).capacity < capacityBound := by
  induction ops using List.reverseRecOn with
  | nil => exact hs
  | append_singleton ops op ih =>
    rw [run_concat]
    exact capacity_perform ih op

/-- A new store is empty, and its capacity is below the bound. -/
theorem ofCapacity_eq_ok {n : Int} {s : Store} (h : ofCapacity n = .ok s) :
    s.messages = [] ∧ s.capacity < capacityBound := by
  obtain ⟨c, hcapacity, rfl⟩ := map_eq_ok_iff.1 h
  exact ⟨rfl, (capacityOf_eq_ok hcapacity).2⟩

/-- There is a store for every positive number below the bound. -/
theorem exists_ofCapacity_iff {n : Int} :
    (∃ s, ofCapacity n = .ok s) ↔ 1 ≤ n ∧ n < capacityBound := by
  constructor
  · rintro ⟨s, h⟩
    obtain ⟨c, hcapacity, -⟩ := map_eq_ok_iff.1 h
    obtain ⟨rfl, hbound⟩ := capacityOf_eq_ok hcapacity
    have hpos := c.2
    omega
  · rintro ⟨hpos, hbound⟩
    have hsmall : ¬ n < 1 := by omega
    have hlarge : ¬ capacityBound ≤ n.toNat := by omega
    refine ⟨empty n.toNat (by omega), ?_⟩
    simp [ofCapacity, capacityOf, hsmall, hlarge, Except.map]

/-- What the operations on a store do and answer: each number is how many messages fell off the
front of those that were there and were put in, the others stay in order, and what is no capacity
changes nothing. -/
structure Exact (s : Store) : Prop where
  append (m : Message) : (s.perform (.append m)).1.size = min s.capacity (s.size + 1) ∧
    (s.perform (.append m)).2 = .dropped (if s.size = s.capacity then 1 else 0)
  extend (batch : List Message) :
    (s.perform (.extend batch)).1.size = min s.capacity (s.size + batch.length) ∧
    (s.perform (.extend batch)).2 = .dropped (s.size + batch.length - s.capacity)
  resize {n : Int} (h : 1 ≤ n) : ((s.perform (.resize n)).1.size : Int) = min n s.size
  resized {n : Int} (h : 1 ≤ n) (hbound : n < capacityBound) :
    (s.perform (.resize n)).1.capacity = n ∧
    (s.perform (.resize n)).2 = .dropped (s.size - n.toNat)
  tooSmall {n : Int} (h : n < 1) : s.perform (.resize n) = (s, .refused (.tooSmall n))
  tooLarge {n : Int} (h : capacityBound ≤ n) : s.perform (.resize n) = (s, .refused .tooLarge)
  front {op : Op} {count : Nat} (h : (s.perform op).2 = .dropped count) :
    ∃ fallen, fallen.length = count ∧
      s.messages ++ op.added = fallen ++ (s.perform op).1.messages

/-- The operations on a store whose capacity is below the bound do what they answer. -/
theorem exact_of_capacity_lt {s : Store} (hs : s.capacity < capacityBound) : s.Exact where
  append m := by
    refine ⟨?_, congrArg Answer.dropped (s.append_count m)⟩
    rw [perform, append_eq_extend]
    exact s.size_extend [m]
  extend batch := by
    refine ⟨s.size_extend batch, ?_⟩
    simp [perform, Store.extend, size]
  resize := size_resize hs
  resized := by
    intro n h hbound
    rcases s.perform_resize_cases n with ⟨hsmall, _⟩ | ⟨hlarge, _⟩ |
      ⟨c, rfl, _, _, hcapacity, _, hcount⟩
    · omega
    · omega
    · exact ⟨congrArg Nat.cast hcapacity, hcount⟩
  -- Below the bound a capacity is refused only for being too small or too large.
  tooSmall := by
    intro n h
    rcases s.perform_resize_cases n with ⟨_, hsame⟩ | ⟨hlarge, _⟩ | ⟨c, rfl, _⟩
    · exact hsame
    · omega
    · omega
  tooLarge := by
    intro n h
    rcases s.perform_resize_cases n with ⟨hsmall, _⟩ | ⟨_, hsame⟩ | ⟨c, rfl, _, hc, _⟩
    · omega
    · exact hsame
    · omega
  front := perform_split

/-- There is a store for every positive number that is not too large. After any run of operations it
holds no more than its capacity, and what it holds is the end of what went in since it was cleared.
All that went in is there, was dropped or was cleared, and every operation from there on drops
nothing but the oldest messages and answers how many they are. -/
theorem accounts {n : Int} :
    ((∃ s, ofCapacity n = .ok s) ↔ 1 ≤ n ∧ n < capacityBound) ∧
    ∀ s, ofCapacity n = .ok s → ∀ ops : List Op,
      (s.run ops).size ≤ (s.run ops).capacity ∧
      (s.run ops).messages <:+ sinceClear ops ∧
      (ops.flatMap Op.added).length = (s.run ops).size + s.dropped ops + s.cleared ops ∧
      (s.run ops).Exact := by
  refine ⟨exists_ofCapacity_iff, ?_⟩
  intro s h ops
  obtain ⟨hempty, hcapacity⟩ := ofCapacity_eq_ok h
  refine ⟨(s.run ops).length_le, suffix_sinceClear hempty ops, ?_, ?_⟩
  · have hbalance := s.run_balance ops
    have hzero : s.size = 0 := congrArg List.length hempty
    omega
  · exact exact_of_capacity_lt (capacity_run hcapacity ops)

/-- A store for two messages that takes in three at once, shrinks, grows, is refused a capacity and
is cleared: of five messages one is there, two were dropped and two were cleared. -/
theorem accounts_shrinking :
    ∃ (a b c : Message) (s : Store) (ops : List Op),
      ofCapacity 2 = .ok s ∧
      ops = [.extend [a, b, c], .resize 1, .resize 5, .append a, .resize 0, .clear, .append b] ∧
      s.dropped ops = 2 ∧ s.cleared ops = 2 ∧ (s.run ops).messages <:+ sinceClear ops ∧
      (ops.flatMap Op.added).length = (s.run ops).size + 2 + 2 ∧
      (s.run ops).perform (.resize (-1)) = (s.run ops, .refused (.tooSmall (-1))) := by
  let message (text : Text) : Message := ⟨"", 1, "", "", .info, text, none⟩
  let a := message "a"
  let b := message "b"
  let c := message "c"
  let s : Store := .empty 2 (by decide)
  let ops : List Op :=
    [.extend [a, b, c], .resize 1, .resize 5, .append a, .resize 0, .clear, .append b]
  have hstart : ofCapacity 2 = .ok s := rfl
  have hdropped : s.dropped ops = 2 := by decide
  have hcleared : s.cleared ops = 2 := by decide
  obtain ⟨_, hsuffix, hbalance, hexact⟩ := accounts.2 s hstart ops
  rw [hdropped, hcleared] at hbalance
  exact ⟨a, b, c, s, ops, hstart, rfl, hdropped, hcleared, hsuffix, hbalance,
    hexact.tooSmall (by decide)⟩

end Store

end LogViewer
