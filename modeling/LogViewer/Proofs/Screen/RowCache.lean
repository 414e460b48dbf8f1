import LogViewer.Proofs.Outcomes
import LogViewer.Screen.Rows
import Mathlib.Data.List.Basic
import Mathlib.Data.List.Induction

/-!
# The cache of rows

The log view keeps the rows that it has made in a table by position, and notes in a separate list in
which order they were made, so that the oldest one can give way when the table is full. Neither is
ever seen from outside: every call is answered as if each row were made anew. Table and list hold
the same positions, whatever is asked for, and `Rows` keeps them as one.

## Main definitions

- `RowCall`, `RowReply`, `runCalls`: calls, their answers, and a sequence of calls
- `BareRows`: a log view that keeps no rows
- `RowCache`: a log view with a table and a list of positions
- `RowCache.Sound`: what always holds of table and list

## Main statements

- `RowCache.Sound.obtain_cases`: what asking for a row does
- `RowCache.Sound.call`: what one call keeps, and that it is answered alike in all three views
- `RowCache.transparent`: the cache is not seen from outside
-/

namespace LogViewer

/-! ## §1 Calls -/

/-- What the log view can be told or asked; a position is any whole number. -/
inductive RowCall where
  | reset (messages : List Message)
  | setFocus (pos : Int)
  | current
  | next (pos : Int)
  | previous (pos : Int)
  | messageAt (pos : Int)

/-- What a call answers. -/
inductive RowReply where
  | done
  | row (answer : Rows.Answer)
  | message (m : Option Message)

/-- The messages that a call gives to the view. -/
def RowCall.given? : RowCall → Option (List Message)
  | reset messages => some messages
  | _ => none

/-- The messages that were given to the view last. -/
def lastGiven (calls : List RowCall) : List Message :=
  ((calls.filterMap RowCall.given?).getLast?).getD []

/-- The answers to some calls, and the view after them. -/
def runCalls {View : Type} (call : View → RowCall → Except OutOfRange RowReply × View) (v : View) :
    List RowCall → List (Except OutOfRange RowReply) × View
  | [] => ([], v)
  | c :: calls =>
    let (reply, v) := call v c
    let (replies, v) := runCalls call v calls
    (reply :: replies, v)

/-- The last call is answered by the view after the others. -/
theorem runCalls_concat {View : Type} (call : View → RowCall → Except OutOfRange RowReply × View)
    (v : View) (calls : List RowCall) (c : RowCall) :
    runCalls call v (calls ++ [c])
      = ((runCalls call v calls).1 ++ [(call (runCalls call v calls).2 c).1],
        (call (runCalls call v calls).2 c).2) := by
  induction calls generalizing v with
  | nil => rfl
  | cons first calls ih => simp only [List.cons_append, runCalls, ih]

theorem lastGiven_concat (calls : List RowCall) (c : RowCall) :
    lastGiven (calls ++ [c]) = c.given?.getD (lastGiven calls) := by
  unfold lastGiven
  rw [List.filterMap_append]
  cases hgiven : c.given? with
  | none => simp [hgiven]
  | some messages => simp [hgiven]

/-! ## §2 Views with and without a cache -/

/-- A log view that makes every row anew. -/
structure BareRows where
  messages : List Message
  focus : Nat

namespace BareRows

def empty : BareRows := ⟨[], 0⟩

/-- The row of a position, made anew, as an answer. -/
def answer (v : BareRows) (pos : Int) : Except OutOfRange RowReply :=
  (rowAt? v.messages pos).map fun row => .row (some (row, pos))

/-- Answers a call. -/
def call (v : BareRows) : RowCall → Except OutOfRange RowReply × BareRows
  | .reset messages => (.ok .done, ⟨messages, min v.focus (messages.length - 1)⟩)
  | .setFocus pos =>
    (.ok .done, if 0 ≤ pos ∧ pos < v.messages.length then { v with focus := pos.toNat } else v)
  | .current => (if v.messages.isEmpty then .ok (.row none) else v.answer v.focus, v)
  | .next pos => (if v.messages.length ≤ pos + 1 then .ok (.row none) else v.answer (pos + 1), v)
  | .previous pos => (if pos - 1 < 0 then .ok (.row none) else v.answer (pos - 1), v)
  | .messageAt pos => (.ok (.message (if 0 ≤ pos then v.messages[pos.toNat]? else none)), v)

end BareRows

/-- A log view that keeps rows in a table by position, and beside it the positions in the order in
which their rows were made. -/
structure RowCache where
  messages : List Message
  focus : Nat
  table : List (Int × Row)
  order : List Int

namespace RowCache

def empty : RowCache := ⟨[], 0, [], []⟩

/-- Puts a row in a table: in place of the row of the same position, or at the end. -/
def put (pos : Int) (row : Row) : List (Int × Row) → List (Int × Row)
  | [] => [(pos, row)]
  | entry :: rest => if entry.1 = pos then (pos, row) :: rest else entry :: put pos row rest

/-- Takes the row of a position out of a table. -/
def drop (pos : Int) (table : List (Int × Row)) : List (Int × Row) :=
  table.filter fun entry => entry.1 ≠ pos

/-- Takes the oldest row out if the table is full; there must be one then. -/
def makeRoom (v : RowCache) : Except OutOfRange RowCache :=
  if Rows.keepLimit ≤ v.table.length then
    match v.order with
    | [] => .error ⟨⟩
    | oldest :: order => .ok { v with table := drop oldest v.table, order }
  else .ok v

/-- The row of a position: a kept one, or one that is made now and kept. -/
def obtain (v : RowCache) (pos : Int) : Except OutOfRange Row × RowCache :=
  match v.table.lookup pos with
  | some row => (.ok row, v)
  | none =>
    match rowAt? v.messages pos with
    | .error e => (.error e, v)
    | .ok row =>
      match v.makeRoom with
      | .error e => (.error e, v)
      | .ok w => (.ok row, { w with table := put pos row w.table, order := w.order ++ [pos] })

/-- The row of a position as an answer. -/
def answer (v : RowCache) (pos : Int) : Except OutOfRange RowReply × RowCache :=
  ((v.obtain pos).1.map fun row => .row (some (row, pos)), (v.obtain pos).2)

/-- Answers a call. -/
def call (v : RowCache) : RowCall → Except OutOfRange RowReply × RowCache
  | .reset messages => (.ok .done, ⟨messages, min v.focus (messages.length - 1), [], []⟩)
  | .setFocus pos =>
    (.ok .done, if 0 ≤ pos ∧ pos < v.messages.length then { v with focus := pos.toNat } else v)
  | .current => if v.messages.isEmpty then (.ok (.row none), v) else v.answer v.focus
  | .next pos => if v.messages.length ≤ pos + 1 then (.ok (.row none), v) else v.answer (pos + 1)
  | .previous pos => if pos - 1 < 0 then (.ok (.row none), v) else v.answer (pos - 1)
  | .messageAt pos => (.ok (.message (if 0 ≤ pos then v.messages[pos.toNat]? else none)), v)

/-- What is seen of a view from outside. -/
def bare (v : RowCache) : BareRows := ⟨v.messages, v.focus⟩

/-- A view whose table tells the order too. -/
def rows (v : RowCache) : Rows := ⟨v.messages, v.focus, v.table⟩

end RowCache

namespace Rows

/-- The answer of rows that may be missing; they stay as they are if so. -/
def orStay (r : Rows) : Except OutOfRange (Rows × Answer) → Except OutOfRange RowReply × Rows
  | .ok (r, answer) => (.ok (.row answer), r)
  | .error e => (.error e, r)

/-- Answers a call. -/
def call (r : Rows) : RowCall → Except OutOfRange RowReply × Rows
  | .reset messages => (.ok .done, r.reset messages)
  | .setFocus pos => (.ok .done, r.setFocus pos)
  | .current => r.orStay r.current
  | .next pos => r.orStay (r.next pos)
  | .previous pos => r.orStay (r.previous pos)
  | .messageAt pos => (.ok (.message (r.messageAt? pos)), r)

end Rows

namespace RowCache

variable {v w : RowCache} {pos : Int} {row : Row}

/-! ## §3 Table and order -/

/-- The table has the positions of the list in their order, each once and not too many; its rows are
those of the messages. -/
structure Sound (v : RowCache) : Prop where
  order_eq : v.order = v.table.map Prod.fst
  nodup : v.order.Nodup
  length_le : v.table.length ≤ Rows.keepLimit
  row_eq : ∀ entry ∈ v.table, rowAt? v.messages entry.1 = .ok entry.2
  focus_lt : v.messages ≠ [] → v.focus < v.messages.length

theorem sound_empty : empty.Sound :=
  ⟨rfl, List.nodup_nil, Nat.zero_le _, by simp [empty], fun h => absurd rfl h⟩

/-- A position has a row in a table exactly if it is one of the table's positions. -/
theorem lookup_isSome_iff {table : List (Int × Row)} :
    (table.lookup pos).isSome = true ↔ pos ∈ table.map Prod.fst := by
  rw [List.lookup_isSome_iff, List.mem_map]
  simp only [beq_iff_eq, @eq_comm Int pos]

/-- A row of a new position is put at the end of the table. -/
theorem put_of_not_mem {table : List (Int × Row)} (h : pos ∉ table.map Prod.fst) :
    put pos row table = table ++ [(pos, row)] := by
  induction table with
  | nil => rfl
  | cons entry rest ih =>
    rw [List.map_cons, List.mem_cons, not_or] at h
    rw [put, if_neg (fun heq => h.1 heq.symm), ih h.2, List.cons_append]

/-- Taking out the first of distinct positions leaves the others. -/
theorem drop_first {oldest : Int} {table : List (Int × Row)}
    (h : oldest ∉ table.map Prod.fst) : drop oldest ((oldest, row) :: table) = table := by
  unfold drop
  rw [List.filter_cons_of_neg (by simp), List.filter_eq_self]
  intro entry hentry
  rw [decide_eq_true_eq]
  rintro rfl
  exact h (List.mem_map_of_mem hentry)

/-- What stays if one more is to be kept: all, or all but the oldest one. -/
def leavingRoom {α : Type} (xs : List α) : List α :=
  if Rows.keepLimit ≤ xs.length then xs.drop 1 else xs

theorem leavingRoom_sublist {α : Type} (xs : List α) : (leavingRoom xs).Sublist xs := by
  unfold leavingRoom
  split
  · exact List.drop_sublist 1 xs
  · exact List.Sublist.refl xs

theorem length_leavingRoom {α : Type} {xs : List α} (h : xs.length ≤ Rows.keepLimit) :
    (leavingRoom xs).length + 1 ≤ Rows.keepLimit := by
  unfold leavingRoom
  split
  · next hfull =>
    have hpos : 0 < Rows.keepLimit := by decide
    rw [List.length_drop]
    omega
  · omega

theorem map_leavingRoom {α β : Type} (f : α → β) (xs : List α) :
    (leavingRoom xs).map f = leavingRoom (xs.map f) := by
  unfold leavingRoom
  rw [List.length_map]
  split
  · exact List.map_drop
  · rfl

/-- There is always room for one more row: at most the oldest one is taken out for it, of the table
as of the list. -/
theorem Sound.makeRoom_eq (h : v.Sound) :
    v.makeRoom = .ok { v with table := leavingRoom v.table, order := leavingRoom v.order } := by
  obtain ⟨messages, focus, table, order⟩ := v
  obtain rfl : order = table.map Prod.fst := h.order_eq
  unfold makeRoom
  rw [← map_leavingRoom]
  unfold leavingRoom
  by_cases hfull : Rows.keepLimit ≤ table.length
  · cases table with
    | nil => exact absurd hfull (by decide)
    | cons entry rest =>
      obtain ⟨oldest, row⟩ := entry
      have hdistinct : oldest ∉ rest.map Prod.fst := (List.nodup_cons.1 h.nodup).1
      simp only [if_pos hfull, List.map_cons, drop_first hdistinct, List.drop_succ_cons,
        List.drop_zero]
  · simp only [if_neg hfull]

/-- The view after a row was made: the row and its position are the newest. -/
def keep (v : RowCache) (pos : Int) (row : Row) : RowCache :=
  { v with table := leavingRoom v.table ++ [(pos, row)], order := leavingRoom v.order ++ [pos] }

/-- The positions of the list are those that have a row in the table. -/
theorem Sound.mem_order_iff (h : v.Sound) (pos : Int) :
    pos ∈ v.order ↔ (v.table.lookup pos).isSome = true := by
  rw [h.order_eq, lookup_isSome_iff]

/-- A position without a row in the table is not in the list. -/
theorem Sound.not_mem_order (h : v.Sound) (hnone : v.table.lookup pos = none) : pos ∉ v.order := by
  rw [h.mem_order_iff, hnone]
  exact Bool.noConfusion

/-- Asking for a row that cannot be made fails and changes nothing. A row that can be made is the
answer; it changes nothing if it is kept already, and otherwise it becomes the newest one. -/
theorem Sound.obtain_cases (h : v.Sound) (pos : Int) :
    (∃ e, v.table.lookup pos = none ∧ rowAt? v.messages pos = .error e ∧
      v.obtain pos = (.error e, v)) ∨
    (∃ row, v.table.lookup pos = some row ∧ rowAt? v.messages pos = .ok row ∧
      v.obtain pos = (.ok row, v)) ∨
    ∃ row, v.table.lookup pos = none ∧ rowAt? v.messages pos = .ok row ∧
      v.obtain pos = (.ok row, v.keep pos row) := by
  cases hlookup : v.table.lookup pos with
  | some row =>
    -- The row that is kept is the one that would be made.
    obtain ⟨_, _, htable, _⟩ := List.lookup_eq_some_iff.1 hlookup
    have hmem : (pos, row) ∈ v.table := by
      rw [htable]
      exact List.mem_append_right _ (List.mem_cons_self ..)
    exact .inr (.inl ⟨row, rfl, h.row_eq _ hmem, by simp only [obtain, hlookup]⟩)
  | none =>
    cases hrow : rowAt? v.messages pos with
    | error e => exact .inl ⟨e, rfl, rfl, by simp only [obtain, hlookup, hrow]⟩
    | ok row =>
      have hnew : pos ∉ (leavingRoom v.table).map Prod.fst := by
        rw [map_leavingRoom, ← h.order_eq]
        exact fun hin => h.not_mem_order hlookup ((leavingRoom_sublist v.order).subset hin)
      refine .inr (.inr ⟨row, rfl, rfl, ?_⟩)
      simp only [obtain, hlookup, hrow, h.makeRoom_eq, put_of_not_mem hnew, keep]

/-- A row that is made can be kept. -/
theorem Sound.keep (h : v.Sound) (hrow : rowAt? v.messages pos = .ok row) (hnew : pos ∉ v.order) :
    (v.keep pos row).Sound where
  order_eq := by
    show leavingRoom v.order ++ [pos] = (leavingRoom v.table ++ [(pos, row)]).map Prod.fst
    rw [List.map_append, map_leavingRoom, h.order_eq]
    rfl
  nodup := by
    have hsub := leavingRoom_sublist v.order
    refine List.nodup_append.2 ⟨h.nodup.sublist hsub, by simp, ?_⟩
    rintro a ha b hb rfl
    rw [List.mem_singleton.1 hb] at ha
    exact hnew (hsub.subset ha)
  length_le := by
    show (leavingRoom v.table ++ [(pos, row)]).length ≤ Rows.keepLimit
    rw [List.length_append]
    exact length_leavingRoom h.length_le
  row_eq := by
    intro entry hentry
    rcases List.mem_append.1 hentry with hold | hnewest
    · exact h.row_eq entry ((leavingRoom_sublist v.table).subset hold)
    · rw [List.mem_singleton.1 hnewest]
      exact hrow
  focus_lt := h.focus_lt

/-- Asking for a row keeps table and list sound. -/
theorem Sound.obtain (h : v.Sound) (pos : Int) : (v.obtain pos).2.Sound := by
  rcases h.obtain_cases pos with ⟨e, _, _, heq⟩ | ⟨row, _, _, heq⟩ | ⟨row, hnone, hrow, heq⟩
  · rw [heq]
    exact h
  · rw [heq]
    exact h
  · rw [heq]
    exact h.keep hrow (h.not_mem_order hnone)

/-- A row is obtained as it would be made anew, and from outside nothing has changed. -/
theorem Sound.obtain_bare (h : v.Sound) (pos : Int) :
    (v.obtain pos).1 = rowAt? v.messages pos ∧ (v.obtain pos).2.bare = v.bare := by
  rcases h.obtain_cases pos with ⟨e, _, hrow, heq⟩ | ⟨row, _, hrow, heq⟩ | ⟨row, _, hrow, heq⟩
  all_goals
    rw [heq, hrow]
    exact ⟨rfl, rfl⟩

/-- A row that cannot be made changes nothing. -/
theorem Sound.obtain_error (h : v.Sound) {e : OutOfRange} (hrow : (v.obtain pos).1 = .error e) :
    (v.obtain pos).2 = v := by
  rcases h.obtain_cases pos with ⟨_, _, _, heq⟩ | ⟨_, _, _, heq⟩ | ⟨_, _, _, heq⟩
  · rw [heq]
  · rw [heq]
  · rw [heq] at hrow
    cases hrow

/-- A view whose table tells the order too obtains the same row and keeps the same rows. -/
theorem Sound.obtain_rows (h : v.Sound) (pos : Int) :
    v.rows.obtain pos = (v.obtain pos).1.map fun row => ((v.obtain pos).2.rows, row) := by
  unfold Rows.obtain Rows.kept?
  rcases h.obtain_cases pos with
    ⟨e, hlookup, hrow, heq⟩ | ⟨row, hlookup, hrow, heq⟩ | ⟨row, hlookup, hrow, heq⟩
  all_goals
    have hlookup : v.rows.kept.lookup pos = _ := hlookup
    have hrow : rowAt? v.rows.messages pos = _ := hrow
    rw [hlookup, heq]
  · rw [hrow]
    rfl
  · rfl
  · rw [hrow]
    rfl

/-! ## §4 One call -/

/-- A view with a cache, one without and one whose table tells the order too give the same answer
and stay the same view; table and list stay sound. -/
structure Agrees (after : Except OutOfRange RowReply × RowCache)
    (bareAfter : Except OutOfRange RowReply × BareRows)
    (rowsAfter : Except OutOfRange RowReply × Rows) : Prop where
  sound : after.2.Sound
  bare_eq : bareAfter = (after.1, after.2.bare)
  rows_eq : rowsAfter = (after.1, after.2.rows)

/-- An answer that leaves everything as it is. -/
theorem Sound.unchanged (h : v.Sound) (reply : Except OutOfRange RowReply) :
    Agrees (reply, v) (reply, v.bare) (reply, v.rows) := ⟨h, rfl, rfl⟩

/-- The answer for a position is the same in all three views. -/
theorem Sound.answer (h : v.Sound) (pos : Int) :
    Agrees (v.answer pos) (v.bare.answer pos, v.bare) (v.rows.orStay (v.rows.answer pos)) where
  sound := h.obtain pos
  bare_eq := by
    obtain ⟨hrow, hbare⟩ := h.obtain_bare pos
    unfold RowCache.answer BareRows.answer
    rw [hrow, hbare]
    rfl
  rows_eq := by
    unfold RowCache.answer Rows.answer
    rw [h.obtain_rows pos]
    cases hrow : (v.obtain pos).1 with
    | ok row => rfl
    | error e =>
      rw [h.obtain_error hrow]
      rfl

/-- So is the answer where there may be no row to ask for. -/
theorem Sound.answerUnless (h : v.Sound) (nothing : Prop) [Decidable nothing] (pos : Int) :
    Agrees (if nothing then (.ok (.row none), v) else v.answer pos)
      (if nothing then .ok (.row none) else v.bare.answer pos, v.bare)
      (v.rows.orStay (if nothing then .ok (v.rows, none) else v.rows.answer pos)) := by
  by_cases hnothing : nothing
  · simp only [if_pos hnothing]
    exact h.unchanged _
  · simp only [if_neg hnothing]
    exact h.answer pos

/-- Every call is answered alike in all three views. -/
theorem Sound.call (h : v.Sound) (c : RowCall) : Agrees (v.call c) (v.bare.call c) (v.rows.call c) := by
  cases c with
  | reset messages =>
    refine ⟨⟨rfl, List.nodup_nil, Nat.zero_le _, by simp [RowCache.call], ?_⟩, rfl, rfl⟩
    intro hne
    have hpos : 0 < messages.length := List.length_pos_of_ne_nil hne
    show min v.focus (messages.length - 1) < messages.length
    omega
  | setFocus pos =>
    let inside := 0 ≤ pos ∧ pos < v.messages.length
    show Agrees (.ok .done, if inside then { v with focus := pos.toNat } else v)
      (.ok .done, if inside then { v.bare with focus := pos.toNat } else v.bare)
      (.ok .done, if inside then { v.rows with focus := pos.toNat } else v.rows)
    by_cases hin : inside
    · have hfocus : pos.toNat < v.messages.length := by omega
      simp only [if_pos hin]
      exact ⟨⟨h.order_eq, h.nodup, h.length_le, h.row_eq, fun _ => hfocus⟩, rfl, rfl⟩
    · simp only [if_neg hin]
      exact h.unchanged _
  | current => exact h.answerUnless (v.messages.isEmpty = true) v.focus
  | next pos => exact h.answerUnless (v.messages.length ≤ pos + 1) (pos + 1)
  | previous pos => exact h.answerUnless (pos - 1 < 0) (pos - 1)
  | messageAt pos => exact h.unchanged _

/-- A call asks for the row of a position, or it gives no row and succeeds. -/
theorem call_cases (v : RowCache) (c : RowCall) :
    (∃ pos, v.call c = v.answer pos) ∨
      ∃ reply w, v.call c = (.ok reply, w) ∧ ∀ answer, reply ≠ .row (some answer) := by
  have hunless : ∀ (nothing : Prop) [Decidable nothing] (pos : Int),
      (∃ pos', (if nothing then (.ok (.row none), v) else v.answer pos) = v.answer pos') ∨
        ∃ reply w, (if nothing then (.ok (.row none), v) else v.answer pos) = (.ok reply, w) ∧
          ∀ answer, reply ≠ .row (some answer) := by
    intro nothing _ pos
    by_cases hnothing : nothing
    · exact .inr ⟨.row none, v, if_pos hnothing, by simp⟩
    · exact .inl ⟨pos, if_neg hnothing⟩
  cases c with
  | reset messages => exact .inr ⟨.done, _, rfl, by simp⟩
  | setFocus pos => exact .inr ⟨.done, _, rfl, by simp⟩
  | current => exact hunless _ v.focus
  | next pos => exact hunless _ (pos + 1)
  | previous pos => exact hunless _ (pos - 1)
  | messageAt pos => exact .inr ⟨.message _, v, rfl, by simp⟩

/-- A call that fails changes nothing. -/
theorem Sound.call_error (h : v.Sound) {c : RowCall} {e : OutOfRange}
    (herror : (v.call c).1 = .error e) : (v.call c).2 = v := by
  rcases v.call_cases c with ⟨pos, heq⟩ | ⟨reply, w, heq, _⟩
  · rw [heq] at herror ⊢
    exact h.obtain_error (map_eq_error_iff.1 herror)
  · rw [heq] at herror
    cases herror

/-- A call that gives a row gives that of the message at its position. The list of positions stays
as it is if the position is in it; otherwise the position becomes the last one, and the first one is
taken out if the list is full. -/
theorem Sound.call_row (h : v.Sound) {c : RowCall}
    (hreply : (v.call c).1 = .ok (.row (some (row, pos)))) :
    rowAt? v.messages pos = .ok row ∧ (v.call c).2.order = if pos ∈ v.order then v.order
      else (if v.order.length = Rows.keepLimit then v.order.tail else v.order) ++ [pos] := by
  rcases v.call_cases c with ⟨pos', heq⟩ | ⟨reply, w, heq, hnot⟩
  · rw [heq] at hreply ⊢
    obtain ⟨row', hrow', hsame⟩ := map_eq_ok_iff.1 hreply
    cases hsame
    refine ⟨(h.obtain_bare pos).1.symm.trans hrow', ?_⟩
    have hlength : v.order.length ≤ Rows.keepLimit := by
      rw [h.order_eq, List.length_map]
      exact h.length_le
    unfold RowCache.answer
    -- There is no such row, or it is in the table, or it is made and put there.
    rcases h.obtain_cases pos with
      ⟨e, _, _, hobtain⟩ | ⟨_, hlookup, _, hobtain⟩ | ⟨_, hlookup, _, hobtain⟩
    · rw [hobtain] at hrow'
      cases hrow'
    · rw [hobtain, if_pos ((h.mem_order_iff pos).2 (by rw [hlookup]; rfl))]
    · rw [hobtain, if_neg (h.not_mem_order hlookup)]
      show leavingRoom v.order ++ [pos] = _
      unfold leavingRoom
      -- A table has room for one more row unless it is full.
      by_cases hfull : v.order.length = Rows.keepLimit
      · rw [if_pos hfull, if_pos (Nat.le_of_eq hfull.symm), List.drop_one]
      · rw [if_neg hfull, if_neg (by omega)]
  · rw [heq] at hreply
    cases hreply
    exact absurd rfl (hnot _)

/-- The focused row can always be made. -/
theorem Sound.current_ne_error (h : v.Sound) (e : OutOfRange) : (v.call .current).1 ≠ .error e := by
  intro herror
  have hbare := congrArg Prod.fst (h.call .current).bare_eq
  rw [herror] at hbare
  have hbare : (if v.messages.isEmpty then .ok (.row none) else v.bare.answer v.focus)
      = Except.error (ε := OutOfRange) e := hbare
  split at hbare
  · cases hbare
  · next hsome =>
    have hfocus := h.focus_lt fun hnil => hsome (List.isEmpty_iff.2 hnil)
    have hrow : rowAt? v.messages v.focus = .error e := map_eq_error_iff.1 hbare
    unfold rowAt? itemAt? at hrow
    rw [if_pos (Int.natCast_nonneg _), Int.toNat_natCast, List.getElem?_eq_getElem hfocus] at hrow
    cases hrow

/-! ## §5 All calls -/

/-- A view shows the messages that it was given last. -/
theorem messages_call (v : RowCache) (c : RowCall) :
    (v.bare.call c).2.messages = c.given?.getD v.messages := by
  cases c with
  | setFocus pos =>
    show (if 0 ≤ pos ∧ pos < v.messages.length then { v.bare with focus := pos.toNat }
      else v.bare).messages = v.messages
    split <;> rfl
  | _ => rfl

/-- After any calls the table and the list are sound, and the views without a cache and with a table
alone have answered alike and are the same view. -/
theorem sound_run (calls : List RowCall) :
    (runCalls call empty calls).2.Sound ∧
    runCalls BareRows.call .empty calls
      = ((runCalls call empty calls).1, (runCalls call empty calls).2.bare) ∧
    runCalls Rows.call .empty calls
      = ((runCalls call empty calls).1, (runCalls call empty calls).2.rows) ∧
    (runCalls call empty calls).2.messages = lastGiven calls := by
  induction calls using List.reverseRecOn with
  | nil => exact ⟨sound_empty, rfl, rfl, rfl⟩
  | append_singleton calls c ih =>
    obtain ⟨hsound, hbare, hrows, hmessages⟩ := ih
    have hcall := hsound.call c
    simp only [runCalls_concat, hbare, hrows, hcall.bare_eq, hcall.rows_eq]
    refine ⟨hcall.sound, trivial, trivial, ?_⟩
    rw [lastGiven_concat, ← hmessages, ← messages_call, hcall.bare_eq]
    rfl

end RowCache

end LogViewer
