import LogViewer.Message

/-!
# The message store

A bounded queue of messages: it holds the newest ones, and what no longer fits falls off the front.
Every operation that can drop messages says how many it dropped.

## Main definitions

- `Store`: messages within a capacity
- `Store.extend`, `Store.append`, `Store.resize`, `Store.clear`
- `CapacityError`: why a number is no capacity
-/

namespace LogViewer

/-! ## §1 Capacities -/

/-- Why a number is no capacity. -/
inductive CapacityError where
  | tooSmall (n : Int)
  | tooLarge
deriving DecidableEq, Repr

/-- The text of the complaint. -/
def CapacityError.message : CapacityError → Text
  | tooSmall n => "max_messages must be >= 1, got " ++ toString n
  | tooLarge => "Python int too large to convert to C ssize_t"

/-- Capacities stay below this bound. -/
def capacityBound : Nat := Nat.pow 2 63

/-- A capacity: a positive number below the bound. -/
def capacityOf (n : Int) : Except CapacityError { c : Nat // 0 < c } :=
  if h : n < 1 then .error (.tooSmall n)
  else if capacityBound ≤ n.toNat then .error .tooLarge
  else .ok ⟨n.toNat, by omega⟩

/-- How many messages a store keeps unless told otherwise. -/
def defaultCapacity : Nat := 5000

/-- The last `n` items of a list. -/
def keepLast {α : Type} (n : Nat) (xs : List α) : List α :=
  xs.drop (xs.length - n)

theorem length_keepLast {α : Type} (n : Nat) (xs : List α) :
    (keepLast n xs).length = min n xs.length := by
  simp [keepLast]; omega

/-! ## §2 Stores -/

/-- The newest messages, as many as the capacity allows. -/
structure Store where
  capacity : Nat
  messages : List Message
  capacity_pos : 0 < capacity
  length_le : messages.length ≤ capacity

namespace Store

/-- A store without messages. -/
def empty (capacity : Nat) (h : 0 < capacity) : Store :=
  ⟨capacity, [], h, Nat.zero_le _⟩

/-- A store without messages, if the number is a capacity. -/
def ofCapacity (n : Int) : Except CapacityError Store :=
  (capacityOf n).map fun c => empty c.1 c.2

/-- The number of messages. -/
def size (s : Store) : Nat := s.messages.length

/-- Adds messages at the end; gives how many fell off the front. -/
def extend (s : Store) (batch : List Message) : Store × Nat :=
  let all := s.messages ++ batch
  (⟨s.capacity, keepLast s.capacity all, s.capacity_pos, by rw [length_keepLast]; omega⟩,
    all.length - s.capacity)

/-- Adds one message at the end; a full store loses the first one. Gives how many fell off the
front. -/
def append (s : Store) (m : Message) : Store × Nat :=
  if h : s.messages.length = s.capacity then
    have hlength : (s.messages.drop 1 ++ [m]).length ≤ s.capacity := by
      have hpos := s.capacity_pos
      simp
      omega
    (⟨s.capacity, s.messages.drop 1 ++ [m], s.capacity_pos, hlength⟩, 1)
  else
    have hlength : (s.messages ++ [m]).length ≤ s.capacity := by
      have hle := s.length_le
      simp
      omega
    (⟨s.capacity, s.messages ++ [m], s.capacity_pos, hlength⟩, 0)

/-- Changes the capacity; gives how many messages fell off the front. -/
def resize (s : Store) (n : Int) : Except CapacityError (Store × Nat) :=
  (capacityOf n).map fun c =>
    (⟨c.1, keepLast c.1 s.messages, c.2, by rw [length_keepLast]; omega⟩, s.messages.length - c.1)

/-- Removes all messages. -/
def clear (s : Store) : Store :=
  empty s.capacity s.capacity_pos

end Store

end LogViewer
