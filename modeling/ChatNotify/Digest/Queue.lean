import ChatNotify.Chat.Post

namespace ChatNotify.Digest

/-- A post that waits to be sent, and the team in which it was written. -/
structure Entry where
  post : Post
  team : String
  deriving Repr

theorem ne_nil_of_get?_empty (user : Id) (queue : List Entry)
    (hqueue : (∅ : Table Id (List Entry)).get? user = some queue) : queue ≠ [] := by
  cases hqueue

/-- The entries that wait, in the order of their arrival, for every user who has some. A user has a
queue exactly as long as something is pending. -/
structure Queues where
  table : Table Id (List Entry) := ∅
  ne_nil : ∀ user queue, table.get? user = some queue → queue ≠ [] := by
    exact ChatNotify.Digest.ne_nil_of_get?_empty

namespace Queues

instance : Inhabited Queues := ⟨{}⟩

/-- The entries that wait for a user. -/
def pending (queues : Queues) (user : Id) : List Entry :=
  (queues.table.get? user).getD []

/-- The number of users for whom something is pending. -/
def userCount (queues : Queues) : Nat :=
  queues.table.size

/-- Gives a user another queue. -/
def replace (queues : Queues) (user : Id) (queue : List Entry) : Queues where
  table := if queue = [] then queues.table.erase user else queues.table.insert user queue
  ne_nil := by
    intro other found h
    split at h
    · rw [Table.get?_erase] at h
      split at h
      · simp at h
      · exact queues.ne_nil other found h
    · next hqueue =>
      rw [Table.get?_insert] at h
      split at h
      · exact Option.some.inj h ▸ hqueue
      · exact queues.ne_nil other found h

/-- Adds an entry at the end of a user's queue. -/
def add (queues : Queues) (user : Id) (entry : Entry) : Queues :=
  queues.replace user (queues.pending user ++ [entry])

/-- Takes the first entries of a user's queue away. -/
def removeFirst (queues : Queues) (user : Id) (count : Nat) : Queues :=
  queues.replace user ((queues.pending user).drop count)

theorem pending_replace (queues : Queues) (user other : Id) (queue : List Entry) :
    (queues.replace user queue).pending other = if user = other then queue else queues.pending other := by
  unfold pending replace
  by_cases hqueue : queue = []
  · simp only [hqueue, if_true, Table.get?_erase, eq_comm (a := other)]
    split <;> rfl
  · simp only [hqueue, if_false, Table.get?_insert]
    split <;> rfl

theorem pending_add (queues : Queues) (user other : Id) (entry : Entry) :
    (queues.add user entry).pending other =
      if user = other then queues.pending other ++ [entry] else queues.pending other := by
  rw [add, pending_replace]
  split
  · next h => rw [h]
  · rfl

theorem pending_removeFirst (queues : Queues) (user other : Id) (count : Nat) :
    (queues.removeFirst user count).pending other =
      if user = other then (queues.pending other).drop count else queues.pending other := by
  rw [removeFirst, pending_replace]
  split
  · next h => rw [h]
  · rfl

end Queues

end ChatNotify.Digest
