import LogViewer.Proofs.Feed.Lines
import LogViewer.Proofs.LogLine.Counted

/-!
# The batches of a feed

A feed is read line by line in a loop. A message goes into the batch that is being filled, a full
batch is handed on and counted, and at the end of the lines so is a batch that is not full. A fault
ends the loop where it stands. The size of the batches is any whole number; one below one counts as
one.

## Main definitions

- `Feeding`: where the loop stands
- `Feeding.put`, `Feeding.finish`, `Feeding.run`: a message, the end of the lines, and the whole
  loop
- `pump`: a feed from its beginning
- `Feeding.Gathers`: what holds wherever the loop stands

## Main statements

- `Feeding.Gathers.put`: a message keeps it
- `Feeding.run_append`: lines that can be read keep it
- `Feeding.run_eq_deliver`: the loop hands on what `deliver` hands on
- `pump_batches`: all messages are handed on, once and in order
-/

namespace LogViewer

open LogViewer.Text

/-! ## §1 The loop -/

/-- Where a feed stands. -/
structure Feeding where
  /-- The batches that were handed on. -/
  delivered : List (List Message)
  /-- The batch that is being filled. -/
  batch : List Message
  /-- How many messages were handed on, as it is counted on the way. -/
  total : Nat
  names : Processes

namespace Feeding

/-- Hands the batch on and begins a new one. -/
def handOn (f : Feeding) : Feeding :=
  { f with delivered := f.delivered ++ [f.batch], total := f.total + f.batch.length, batch := [] }

/-- Puts a message in the batch, which is handed on if it is full. -/
def put (size : Int) (f : Feeding) (m : Message) : Feeding :=
  let f := { f with batch := f.batch ++ [m] }
  if size ≤ f.batch.length then f.handOn else f

/-- Hands on what is left at the end. -/
def finish (f : Feeding) : Feeding := if f.batch.isEmpty then f else f.handOn

/-- Reads lines to their end or to a fault. -/
def run (size : Int) (f : Feeding) : List Text → Option TooManyDigits × Feeding
  | [] => (none, f.finish)
  | line :: rest =>
    match f.names.readLine line with
    | .error e => (some e, f)
    | .ok (none, names) => run size { f with names } rest
    | .ok (some m, names) => run size (put size { f with names } m) rest

/-- Nothing has been read. -/
def start (p : Processes) : Feeding := ⟨[], [], 0, p⟩

end Feeding

/-- Reads lines from the beginning, with some names known: gives the fault that ended the feed, if
any, and what was handed on. -/
def pump (size : Int) (p : Processes) (lines : List Text) : Option TooManyDigits × Feeding :=
  (Feeding.start p).run size lines

namespace Feeding

variable {size : Int} {f : Feeding} {ms : List Message} {m : Message}

/-! ## §2 What holds wherever the loop stands -/

/-- Some messages were gathered: those that were handed on in full batches, followed by the batch
that is being filled, which is not full. -/
structure Gathers (size : Int) (ms : List Message) (f : Feeding) : Prop where
  messages : f.delivered.flatten ++ f.batch = ms
  full : ∀ b ∈ f.delivered, (b.length : Int) = max 1 size
  filling : (f.batch.length : Int) < max 1 size
  total : f.total = f.delivered.flatten.length

theorem Gathers.start (size : Int) (p : Processes) : Gathers size [] (start p) where
  messages := rfl
  full := by simp [Feeding.start]
  filling := by
    show (0 : Int) < max 1 size
    omega
  total := rfl

/-- Handing a batch on counts it. -/
theorem total_handOn (h : f.total = f.delivered.flatten.length) :
    f.handOn.total = f.handOn.delivered.flatten.length := by
  simp [handOn, h]

/-- One more message is gathered. -/
theorem Gathers.put (h : Gathers size ms f) (m : Message) : Gathers size (ms ++ [m]) (f.put size m) := by
  have hmessages : f.delivered.flatten ++ (f.batch ++ [m]) = ms ++ [m] := by
    rw [← List.append_assoc, h.messages]
  have hlength : ((f.batch ++ [m]).length : Int) = f.batch.length + 1 := by simp
  have hfilling := h.filling
  unfold Feeding.put
  dsimp only
  split
  · next hfull =>
    -- The batch was not full before, so it is exactly full now.
    have hexact : ((f.batch ++ [m]).length : Int) = max 1 size := by omega
    refine ⟨?_, ?_, ?_, total_handOn h.total⟩
    · simpa [handOn] using hmessages
    · intro b hb
      rcases List.mem_append.1 hb with hb | hb
      · exact h.full b hb
      · rw [List.mem_singleton.1 hb]
        exact hexact
    · show (0 : Int) < max 1 size
      omega
  · next hfilling' =>
    refine ⟨hmessages, h.full, ?_, h.total⟩
    show ((f.batch ++ [m]).length : Int) < max 1 size
    omega

@[simp] theorem names_put (size : Int) (f : Feeding) (m : Message) :
    (f.put size m).names = f.names := by
  unfold put
  dsimp only
  split <;> rfl

/-- New names change nothing else. -/
theorem Gathers.learn (h : Gathers size ms f) (names : Processes) : Gathers size ms { f with names } :=
  ⟨h.messages, h.full, h.filling, h.total⟩

/-- After lines that can be read, their messages have been gathered and their names are known, and
the loop goes on with the lines behind them. -/
theorem run_append (h : Gathers size ms f) {q : Processes} {lines : List Text}
    {more : List Message} (hlines : readLines f.names lines = .ok (more, q)) (rest : List Text) :
    ∃ g, f.run size (lines ++ rest) = g.run size rest ∧ g.names = q ∧
      Gathers size (ms ++ more) g := by
  induction lines generalizing f ms more with
  | nil =>
    cases hlines
    exact ⟨f, rfl, rfl, by rwa [List.append_nil]⟩
  | cons line lines ih =>
    obtain ⟨m, names, later, hline, hlater, rfl⟩ := readLines_cons_iff.1 hlines
    rw [List.cons_append, run, hline]
    cases m with
    | none => exact ih (h.learn names) hlater
    | some m =>
      have hput := (h.learn names).put m
      obtain ⟨g, hrun, hnames, hgathers⟩ := ih hput (by rwa [names_put])
      exact ⟨g, hrun, hnames, by simpa using hgathers⟩

/-! ## §3 The end of the lines -/

/-- At the end all that was gathered has been handed on and counted; all batches are full except for
the last one, which is not empty. -/
theorem Gathers.finish (h : Gathers size ms f) :
    f.finish.delivered.flatten = ms ∧ f.finish.total = ms.length ∧ [] ∉ f.finish.delivered ∧
      (∀ b ∈ f.finish.delivered.dropLast, (b.length : Int) = max 1 size) ∧
      ∀ b ∈ f.finish.delivered.getLast?, 1 ≤ b.length ∧ (b.length : Int) ≤ max 1 size := by
  have hbatch : ∀ b ∈ f.delivered, 1 ≤ b.length ∧ (b.length : Int) ≤ max 1 size := by
    intro b hb
    have := h.full b hb
    omega
  have hnone : [] ∉ f.delivered := fun hin => absurd (hbatch [] hin).1 (by simp)
  unfold Feeding.finish
  split
  · next hempty =>
    -- Everything was handed on in full batches.
    have hmessages : f.delivered.flatten = ms := by
      rw [← h.messages, List.isEmpty_iff.1 hempty, List.append_nil]
    refine ⟨hmessages, hmessages ▸ h.total, hnone, ?_, ?_⟩
    · exact fun b hb => h.full b ((List.dropLast_sublist _).subset hb)
    · exact fun b hb => hbatch b (List.mem_of_getLast? hb)
  · next hsome =>
    -- What is left is the last batch, the only one that need not be full.
    have hlast : 1 ≤ f.batch.length :=
      List.length_pos_of_ne_nil fun hnil => hsome (List.isEmpty_iff.2 hnil)
    have hmessages : f.handOn.delivered.flatten = ms := by
      rw [← h.messages]
      simp [handOn]
    have htotal := total_handOn h.total
    rw [hmessages] at htotal
    refine ⟨hmessages, htotal, ?_, ?_, ?_⟩
    · intro hin
      rcases List.mem_append.1 hin with hin | hin
      · exact hnone hin
      · rw [← List.mem_singleton.1 hin] at hlast
        exact absurd hlast (by simp)
    · show ∀ b ∈ (f.delivered ++ [f.batch]).dropLast, _
      rw [List.dropLast_concat]
      exact h.full
    · intro b hb
      have hb : (f.delivered ++ [f.batch]).getLast? = some b := hb
      rw [List.getLast?_concat] at hb
      cases hb
      exact ⟨hlast, Int.le_of_lt h.filling⟩

/-! ## §4 Sizes -/

/-- A size below one hands on every message at once, as size one does. -/
theorem put_of_lt_one (h : size < 1) (f : Feeding) (m : Message) : f.put size m = f.put 1 m := by
  have hlength : ((f.batch ++ [m]).length : Int) = f.batch.length + 1 := by simp
  unfold put
  dsimp only
  rw [if_pos (by omega), if_pos (by omega)]

theorem run_of_lt_one (h : size < 1) (f : Feeding) (lines : List Text) :
    f.run size lines = f.run 1 lines := by
  induction lines generalizing f with
  | nil => rfl
  | cons line lines ih => simp only [run, put_of_lt_one h, ih]

/-- The loop hands on what `deliver` hands on, behind what was handed on before, and ends with the
same fault and the same names. What it counts is how many messages these are. -/
theorem run_eq_deliver (size : Int) (f : Feeding) (lines : List Text) :
    (f.run size lines).1 = (deliver size.toNat f.names f.batch lines).fault ∧
      (f.run size lines).2.delivered
        = f.delivered ++ (deliver size.toNat f.names f.batch lines).batches ∧
      (f.run size lines).2.names = (deliver size.toNat f.names f.batch lines).names ∧
      (f.run size lines).2.total
        = f.total + (deliver size.toNat f.names f.batch lines).total := by
  induction lines generalizing f with
  | nil =>
    unfold run deliver finish Delivery.total
    cases hbatch : f.batch with
    | nil => simp
    | cons m batch => simp [handOn, hbatch]
  | cons line lines ih =>
    rw [run, deliver]
    cases f.names.readLine line with
    | error e => simp [Delivery.total]
    | ok r =>
      obtain ⟨m, names⟩ := r
      cases m with
      | none => exact ih { f with names }
      | some m =>
        -- The loop compares integers, and a negative size is the size zero of `deliver`.
        have hsize : size ≤ ((f.batch ++ [m]).length : Int)
            ↔ size.toNat ≤ (f.batch ++ [m]).length := by omega
        obtain ⟨hfault, hdelivered, hnames, htotal⟩ := ih (put size { f with names } m)
        unfold put at hfault hdelivered hnames htotal ⊢
        dsimp only at hfault hdelivered hnames htotal ⊢
        by_cases hfull : size ≤ ((f.batch ++ [m]).length : Int)
        · rw [if_pos hfull] at hfault hdelivered hnames htotal ⊢
          rw [if_pos (hsize.1 hfull)]
          refine ⟨hfault, ?_, hnames, ?_⟩
          · rw [hdelivered]
            simp [handOn]
          · rw [htotal]
            simp [handOn, Delivery.total]
            omega
        · rw [if_neg hfull] at hfault hdelivered hnames htotal ⊢
          rw [if_neg (fun h => hfull (hsize.2 h))]
          exact ⟨hfault, hdelivered, hnames, htotal⟩

end Feeding

/-! ## §5 Whole feeds -/

/-- A feed hands on all messages of its lines once and in order, in batches of the given size of
which only the last one may be shorter, and none is empty; it counts them, and knows the names that
reading the lines gives. If a line fails, the feed ends with its fault, and has handed on the
messages of the lines before it as far as they fill batches, so that fewer are left than a batch
has. A size below one counts as one. The batches are those that `deliver` hands on. -/
theorem pump_batches (size : Int) (p : Processes) (lines : List Text) :
    (∀ ms q, readLines p lines = .ok (ms, q) →
      ∃ f, pump size p lines = (none, f) ∧ f.names = q ∧ f.delivered.flatten = ms ∧
        f.total = ms.length ∧ [] ∉ f.delivered ∧
        (∀ b ∈ f.delivered.dropLast, (b.length : Int) = max 1 size) ∧
        ∀ b ∈ f.delivered.getLast?, 1 ≤ b.length ∧ (b.length : Int) ≤ max 1 size) ∧
    (∀ before line after ms q e, lines = before ++ line :: after →
      readLines p before = .ok (ms, q) → q.readLine line = .error e →
      ∃ f rest, pump size p lines = (some e, f) ∧ f.names = q ∧ ms = f.delivered.flatten ++ rest ∧
        (rest.length : Int) < max 1 size ∧ ∀ b ∈ f.delivered, (b.length : Int) = max 1 size) ∧
    (∀ e, readLines p lines = .error e ↔ ∃ before line after ms q, lines = before ++ line :: after ∧
      readLines p before = .ok (ms, q) ∧ q.readLine line = .error e) ∧
    (size < 1 → pump size p lines = pump 1 p lines) ∧
    ∃ fault f, pump size p lines = (fault, f) ∧
      deliver size.toNat p [] lines = ⟨f.delivered, fault, f.names⟩ ∧
      (deliver size.toNat p [] lines).total = f.total := by
  refine ⟨?whole, ?fails, fun e => readLines_eq_error_iff, ?small, ?delivery⟩
  case whole =>
    intro ms q hlines
    obtain ⟨f, hrun, hnames, hgathers⟩ := Feeding.run_append (.start size p) hlines []
    rw [List.append_nil] at hrun
    have hend : f.finish.names = q := by
      unfold Feeding.finish
      split <;> exact hnames
    exact ⟨f.finish, hrun, hend, hgathers.finish⟩
  case fails =>
    rintro before line after ms q e rfl hbefore hfails
    -- The loop has gathered the messages of the lines before when it comes to the one that fails.
    obtain ⟨f, hrun, rfl, hgathers⟩ :=
      Feeding.run_append (.start size p) hbefore (line :: after)
    refine ⟨f, f.batch, ?_, rfl, hgathers.messages.symm, hgathers.filling, hgathers.full⟩
    unfold pump
    rw [hrun, Feeding.run, hfails]
  case small =>
    intro hsize
    exact Feeding.run_of_lt_one hsize (.start p) lines
  case delivery =>
    obtain ⟨hfault, hdelivered, hnames, htotal⟩ := (Feeding.start p).run_eq_deliver size lines
    refine ⟨_, _, rfl, ?_, ?_⟩
    · rw [hfault, hdelivered, hnames]
      rfl
    · exact (htotal.trans (Nat.zero_add _)).symm

/-- Three messages among other lines are handed on in a batch of two and one of one. If a line with
too long a number follows them, the batch of one is not handed on, and neither is what comes behind.
-/
theorem pump_batches_three :
    ∃ (lines : List Text) (b c d : Message) (f g : Feeding),
      lines = (["--- beginning of main", "I/a(    1): b", "I/a(    1): c", "", "I/a(    1): d"] :
        List Text) ∧
      readLines .empty lines = .ok ([b, c, d], .empty) ∧
      pump 2 .empty lines = (none, f) ∧ f.delivered = [[b, c], [d]] ∧ f.total = 3 ∧
      pump 2 .empty (lines ++ (LogLine.LogEntry.death 4301).brief :: [("I/a(    1): e" : Text)])
        = (some ⟨4301⟩, g) ∧
      g.delivered = [[b, c]] ∧ pump (-3) .empty lines = pump 1 .empty lines := by
  let lines : List Text :=
    ["--- beginning of main", "I/a(    1): b", "I/a(    1): c", "", "I/a(    1): d"]
  let message (text : Text) : Message := ⟨"", 1, "?", "a", .info, text, none⟩
  let faulty := (LogLine.LogEntry.death 4301).brief :: [("I/a(    1): e" : Text)]
  have hread : readLines .empty lines = .ok ([message "b", message "c", message "d"], .empty) :=
    rfl
  obtain ⟨hwhole, _, _, hsmall, _⟩ := pump_batches 2 .empty lines
  obtain ⟨f, hpump, _, _, htotal, _⟩ := hwhole _ _ hread
  obtain ⟨_, hfails, _⟩ := pump_batches 2 .empty (lines ++ faulty)
  obtain ⟨g, rest, hpump', _, hmessages, hrest, hfull⟩ :=
    hfails lines _ _ _ _ _ rfl hread (Processes.readLine_death .empty)
  obtain ⟨_, _, _, hone, _⟩ := pump_batches (-3) .empty lines
  have hdelivered : f.delivered = [[message "b", message "c"], [message "d"]] := by
    have hloop : (pump 2 .empty lines).2.delivered
        = [[message "b", message "c"], [message "d"]] := rfl
    rwa [hpump] at hloop
  have htwo : ∀ b ∈ g.delivered, b.length = 2 := by
    intro b hb
    have := hfull b hb
    omega
  -- Three messages fill one batch of two and no second one.
  have hdelivered' : g.delivered = [[message "b", message "c"]] := by
    cases hbatches : g.delivered with
    | nil =>
      rw [hbatches] at hmessages
      have hlength : 3 = rest.length := congrArg List.length hmessages
      omega
    | cons x more =>
      obtain ⟨u, v, rfl⟩ := List.length_eq_two.1 (htwo x (by simp [hbatches]))
      rw [hbatches] at hmessages
      obtain ⟨hu, hbehind⟩ := List.cons.inj hmessages
      obtain ⟨hv, hbehind⟩ := List.cons.inj hbehind
      cases more with
      | nil => rw [hu, hv]
      | cons y more =>
        have hlength := congrArg List.length hbehind
        have hy := htwo y (by simp [hbatches])
        simp [hy] at hlength
        omega
  exact ⟨lines, message "b", message "c", message "d", f, g, rfl, hread, hpump, hdelivered, htotal,
    hpump', hdelivered', hone (by decide)⟩

end LogViewer
