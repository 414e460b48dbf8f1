import LogViewer.Proofs.Panel.Run
import LogViewer.Proofs.Rules.Selection
import LogViewer.Proofs.Store.Run
import Mathlib.Data.List.Nodup

/-!
# Messages that fall off

A visible message is in the store and in a row of the view. Batches that come in push it towards the
front of the store, one place for each message that falls off, and up in the view, one row for each
visible one.

## Main definitions

- `Panel.places`: where the visible messages are stored
- `Panel.evicted`, `Panel.fallen`: how many messages a batch pushes out, and how many visible ones
- `Panel.Received`: a panel to which a batch has come in

## Main statements

- `Panel.getElem?_visible`: the message of a row
- `Panel.Received.places`: where a message is after a batch has come in
-/

namespace LogViewer

/-- An empty batch changes nothing. -/
theorem Store.extend_nil (s : Store) : (s.extend []).1 = s := by
  obtain ⟨capacity, messages, hpos, hle⟩ := s
  have hkept : keepLast capacity (messages ++ []) = messages := by
    unfold keepLast
    rw [List.append_nil, Nat.sub_eq_zero_of_le hle, List.drop_zero]
  simp only [extend, hkept]

namespace Panel

/-! ## §1 Rows and places -/

/-- Where the visible messages are in the store, the first one first. -/
def places (p : Panel) : List Nat := p.store.messages.findIdxs p.shows

theorem length_places (p : Panel) : p.places.length = p.visible.length := by
  unfold places visible
  rw [List.length_findIdxs, List.countP_eq_length_filter]

/-- Every row shows a message that is stored somewhere. -/
theorem exists_places {p : Panel} {row : Nat} (h : row < p.visible.length) :
    ∃ i, p.places[row]? = some i :=
  ⟨_, List.getElem?_eq_getElem (p.length_places ▸ h)⟩

theorem lt_of_places {p : Panel} {row i : Nat} (h : p.places[row]? = some i) :
    i < p.store.messages.length := by
  obtain ⟨hi, _⟩ := List.mem_findIdxs_iff_exists_getElem_pos.1 (List.mem_of_getElem? h)
  exact hi

/-- The message of a row is the one that is stored at its place. -/
theorem getElem?_visible {p : Panel} {row i : Nat} (h : p.places[row]? = some i) :
    p.visible[row]? = p.store.messages[i]? := by
  have hi := lt_of_places h
  obtain ⟨hrow, rfl⟩ := List.getElem?_eq_some_iff.1 h
  have hrow' : row < p.visible.length := p.length_places ▸ hrow
  rw [List.getElem?_eq_getElem hrow', List.getElem?_eq_getElem hi]
  exact congrArg some (List.getElem_filter_eq_getElem_getElem_findIdxs hrow')

/-- A stored message is shown in one row at most. -/
theorem eq_of_places {p : Panel} {row row' i : Nat} (h : p.places[row]? = some i)
    (h' : p.places[row']? = some i) : row = row' := by
  obtain ⟨hrow, -⟩ := List.getElem?_eq_some_iff.1 h
  exact (List.getElem?_inj hrow List.nodup_findIdxs).1 (h.trans h'.symm)

/-- The places of the messages at the front come before those of the others. -/
theorem places_split (p : Panel) {n : Nat} (h : n ≤ p.store.messages.length) :
    p.places = (p.store.messages.take n).findIdxs p.shows
      ++ (p.store.messages.drop n).findIdxs p.shows n := by
  have hlength : 0 + (p.store.messages.take n).length = n := by
    rw [List.length_take, Nat.zero_add, Nat.min_eq_left h]
  unfold places
  conv_lhs => rw [← List.take_append_drop n p.store.messages]
  rw [List.findIdxs_append, hlength]

/-! ## §2 A batch -/

/-- How many messages fall off the front when a batch comes in. -/
def evicted (p : Panel) (batch : List Message) : Nat := (p.store.extend batch).2

/-- How many of the visible messages are among them. -/
def fallen (p : Panel) (batch : List Message) : Nat :=
  (p.store.messages.take (p.evicted batch)).countP p.shows

theorem fallen_nil (p : Panel) : p.fallen [] = 0 := by
  have hnone : p.evicted [] = 0 := by
    show (p.store.messages ++ []).length - p.store.capacity = 0
    rw [List.append_nil, Nat.sub_eq_zero_of_le p.store.length_le]
  unfold fallen
  rw [hnone]
  rfl

/-- No visible message falls off if none of those that do is visible. -/
theorem fallen_eq_zero_iff (p : Panel) (batch : List Message) : p.fallen batch = 0 ↔
    ∀ m ∈ p.store.messages.take (p.evicted batch), p.shows m = false := by
  unfold fallen
  rw [List.countP_eq_zero]
  simp

/-- What has fallen off stays off. -/
theorem fallen_append_le (p : Panel) (batch more : List Message) :
    p.fallen batch ≤ p.fallen (batch ++ more) := by
  have hle : p.evicted batch ≤ p.evicted (batch ++ more) := by
    unfold evicted Store.extend
    simp only [List.length_append]
    omega
  exact (List.take_prefix_take_left hle).sublist.countP_le

/-- A panel to which a batch has come in, and nothing else has happened that matters to what is
visible. -/
structure Received (p : Panel) (batch : List Message) (q : Panel) : Prop where
  store : q.store = (p.store.extend batch).1
  shows : q.shows = p.shows

namespace Received

variable {p q : Panel} {batch : List Message}

theorem refl (p : Panel) : p.Received [] p := ⟨p.store.extend_nil.symm, rfl⟩

/-- Counting unread messages does not change what is visible. -/
theorem shows_receive (p : Panel) (batch : List Message) : (p.receive batch).shows = p.shows := by
  have hkeeps : ¬ p.rules.Reselects (.countUnread batch) := id
  have hrule : (p.receive batch).rules.selectedRule.matches = p.rules.selectedRule.matches := by
    rw [rules_receive]
    exact (RuleSet.selectedRule_perform hkeeps).matches_eq
  have hlive : (p.receive batch).live = p.live := by
    unfold Panel.receive
    split <;> rfl
  funext m
  unfold Panel.shows
  rw [hrule, hlive]

theorem receive (h : p.Received batch q) (more : List Message) :
    p.Received (batch ++ more) (q.receive more) := by
  refine ⟨?_, (shows_receive q more).trans h.shows⟩
  cases more with
  | nil =>
    rw [List.append_nil]
    exact h.store
  | cons m more =>
    show (q.store.extend (m :: more)).1 = _
    rw [h.store, Store.extend_extend]

/-- What is stored after a batch has come in. -/
theorem messages (h : p.Received batch q) :
    q.store.messages = (p.store.messages ++ batch).drop (p.evicted batch) := by
  rw [h.store]
  rfl

/-- No visible messages are lost but those that have fallen off. -/
theorem length_visible_le (h : p.Received batch q) :
    p.visible.length ≤ q.visible.length + p.fallen batch := by
  unfold visible fallen
  rw [h.messages, h.shows, ← List.countP_eq_length_filter, ← List.countP_eq_length_filter,
    List.drop_append, List.countP_append]
  -- Of the messages that were stored, those behind the evicted ones are still there.
  calc p.store.messages.countP p.shows
      = (p.store.messages.take (p.evicted batch) ++ p.store.messages.drop (p.evicted batch)).countP
          p.shows := by rw [List.take_append_drop]
    _ ≤ _ := by
      rw [List.countP_append]
      omega

/-- A message that does not fall off is in the store where the others have pushed it, and in the row
where the visible ones have. -/
theorem places (h : p.Received batch q) {row i : Nat} (hrow : p.places[row]? = some i)
    (hi : p.evicted batch ≤ i) :
    p.fallen batch ≤ row ∧ q.places[row - p.fallen batch]? = some (i - p.evicted batch) ∧
      q.store.messages[i - p.evicted batch]? = p.store.messages[i]? := by
  have hlt := lt_of_places hrow
  have hsize : p.evicted batch ≤ p.store.messages.length := Nat.le_trans hi (Nat.le_of_lt hlt)
  have hmessages : q.store.messages = p.store.messages.drop (p.evicted batch) ++ batch := by
    rw [h.messages, List.drop_append_of_le_length hsize]
  have hsplit := p.places_split hsize
  have hfallen : ((p.store.messages.take (p.evicted batch)).findIdxs p.shows).length
      = p.fallen batch := List.length_findIdxs
  -- The row is not among those of the messages that have fallen off, whose places are smaller.
  have hle : p.fallen batch ≤ row := by
    by_contra hnot
    rw [hsplit, List.getElem?_append_left (by omega)] at hrow
    have hbound := List.lt_add_of_mem_findIdxs i (List.mem_of_getElem? hrow)
    rw [List.length_take] at hbound
    omega
  refine ⟨hle, ?_, ?_⟩
  · rw [hsplit, List.getElem?_append_right (by omega), hfallen, List.findIdxs_start,
      List.getElem?_map] at hrow
    obtain ⟨j, hj, rfl⟩ := Option.map_eq_some_iff.1 hrow
    have hshows := h.shows
    unfold Panel.places
    rw [hmessages, hshows, List.findIdxs_append, Nat.add_sub_cancel,
      List.getElem?_append_left (List.getElem?_eq_some_iff.1 hj).1]
    exact hj
  · rw [hmessages, List.getElem?_append_left (by rw [List.length_drop]; omega), List.getElem?_drop]
    congr 1
    omega

end Received

end Panel

end LogViewer
