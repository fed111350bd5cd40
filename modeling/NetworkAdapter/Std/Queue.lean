/-!
# Bounded queues and their readers

`putUnlessFull` is how a full queue loses items. `Monitor` is a log of items and two
readers of it: one takes them one by one, the other empties a queue of limited room in
batches. The log notes how many items waited in that queue when an item was added, and
the fields of the structure are what the readers are promised.
-/

namespace NetworkAdapter

/-- `if not queue.full(): queue.put(item)` for a queue of bounded size. -/
def putUnlessFull {Item : Type} (maxsize : Nat) (queue : List Item) (item : Item) : List Item :=
  if queue.length < maxsize then queue ++ [item] else queue

variable {Item Image : Type}

theorem putUnlessFull_map (image : Item → Image) (maxsize : Nat) (queue : List Item)
    (item : Item) :
    putUnlessFull maxsize (queue.map image) (image item) =
      (putUnlessFull maxsize queue item).map image := by
  unfold putUnlessFull
  rw [List.length_map]
  split
  · simp
  · rfl

/-- A queue nobody takes from holds the first items put. -/
theorem putUnlessFull_take (maxsize : Nat) (items : List Item) (item : Item) :
    putUnlessFull maxsize (items.take maxsize) item = (items ++ [item]).take maxsize := by
  unfold putUnlessFull
  rw [List.length_take, List.take_append]
  by_cases room : items.length < maxsize
  · have more : maxsize - items.length ≠ 0 := by omega
    have one : [item].take (maxsize - items.length) = [item] :=
      List.take_of_length_le (by simp only [List.length_singleton]; omega)
    rw [if_pos (by omega), one]
  · have none : maxsize - items.length = 0 := by omega
    rw [if_neg (by omega), none]
    simp

/-- A log and its two readers. -/
structure Monitor (Item : Type) (room : Nat) where
  /-- Every item, with the number of items that were waiting for the second reader. -/
  log : List (Item × Nat)
  unread : List Item
  pending : List Item
  batches : List (List Item)
  unread_suffix : unread <:+ log.map Prod.fst
  delivered :
    batches.flatten ++ pending = (log.filter fun entry => entry.2 < room).map Prod.fst
  pending_le : pending.length ≤ room
  waited_le : ∀ entry ∈ log, entry.2 ≤ room

namespace Monitor

variable {room : Nat}

/-- Nothing logged. -/
def empty : Monitor Item room where
  log := []
  unread := []
  pending := []
  batches := []
  unread_suffix := List.suffix_rfl
  delivered := rfl
  pending_le := Nat.zero_le room
  waited_le := by simp

/-- The items of the log. -/
def items (monitor : Monitor Item room) : List Item := monitor.log.map Prod.fst

/-- An item is logged and offered to both readers. -/
def add (monitor : Monitor Item room) (item : Item) : Monitor Item room where
  log := monitor.log ++ [(item, monitor.pending.length)]
  unread := monitor.unread ++ [item]
  pending := putUnlessFull room monitor.pending item
  batches := monitor.batches
  unread_suffix := by
    obtain ⟨read, split⟩ := monitor.unread_suffix
    exact ⟨read, by simp [← split]⟩
  delivered := by
    rw [List.filter_append, List.map_append, ← monitor.delivered, putUnlessFull]
    split <;> simp_all
  pending_le := by
    have := monitor.pending_le
    unfold putUnlessFull
    split
    · simpa
    · exact this
  waited_le := by
    intro entry member
    rcases List.mem_append.mp member with earlier | new
    · exact monitor.waited_le entry earlier
    · rw [List.mem_singleton.mp new]
      exact monitor.pending_le

/-- The first reader takes an item, if there is one. -/
def take (monitor : Monitor Item room) : Monitor Item room :=
  { monitor with
    unread := monitor.unread.tail
    unread_suffix := (List.tail_suffix monitor.unread).trans monitor.unread_suffix }

/-- The second reader takes what is waiting for it. -/
def drain (monitor : Monitor Item room) : Monitor Item room :=
  { monitor with
    pending := []
    batches := monitor.batches ++ [monitor.pending]
    delivered := by simpa using monitor.delivered
    pending_le := Nat.zero_le room }

/-- The batches are an in-order subsequence of the log. -/
theorem batches_sublist (monitor : Monitor Item room) :
    monitor.batches.flatten.Sublist monitor.items :=
  (List.sublist_append_left _ _).trans
    (monitor.delivered ▸ List.filter_sublist.map Prod.fst)

end Monitor
end NetworkAdapter
