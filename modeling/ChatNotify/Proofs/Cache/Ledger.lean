import ChatNotify.Proofs.Cache.Line
import ChatNotify.Proofs.Log
import Mathlib.Data.List.Induction
import Mathlib.Data.List.Perm.Subperm

namespace ChatNotify.Cache

variable {κ α : Type}

/-- What happens to the values of a shelf at one moment. -/
inductive Act (κ α : Type) where
  | store (key : κ) (value : α)
  /-- A lookup that is counted, with what it finds. -/
  | lookUp (key : κ) (found : Option α)
  /-- A reader who has come through the gate looks again, which is not counted. -/
  | lookAgain (key : κ)
  | invalidate (key : κ)
  | clear

/-- Stores and lookups use a key, drops do not. -/
def Act.Uses (key : κ) : Act κ α → Prop
  | .store other _ | .lookUp other _ | .lookAgain other => other = key
  | .invalidate _ | .clear => False

/-- Holds of a lookup that is counted and finds a value. -/
def Act.isHit : Act κ α → Bool
  | .lookUp _ found => found.isSome
  | _ => false

/-- Holds of a lookup that is counted and finds nothing. -/
def Act.isMiss : Act κ α → Bool
  | .lookUp _ found => found.isNone
  | _ => false

/-- An act, with the keys on the shelf before it and after it. -/
structure Entry (κ α : Type) where
  act : Act κ α
  now : Instant
  before : List κ
  after : List κ

/-- All that has happened on a shelf, the earliest first. -/
abbrev Ledger (κ α : Type) := List (Entry κ α)

/-- The other key has been used since the key was used last. -/
def UsedSince (ledger : Ledger κ α) (key other : κ) : Prop :=
  ∃ front entry back, ledger = front ++ entry :: back ∧ entry.act.Uses other ∧ ∀ later ∈ back, ¬ later.act.Uses key

/-- Of the keys this is the one that has not been used for the longest time. -/
def IsLeastRecent (ledger : Ledger κ α) (keys : List κ) (key : κ) : Prop :=
  key ∈ keys ∧ ∀ other ∈ keys, other ≠ key → UsedSince ledger key other

namespace Entry

variable [DecidableEq κ]

/-- The keys that the shelf has lost. -/
def lost (entry : Entry κ α) : List κ :=
  entry.before.filter (· ∉ entry.after)

/-- The key makes room for another that is stored. -/
def Evicts (entry : Entry κ α) (key : κ) : Prop :=
  (∃ other value, entry.act = .store other value) ∧ key ∈ entry.lost

/-- Why a key is not on the shelf any more. -/
inductive Removes (entry : Entry κ α) (key : κ) : Prop
  | invalidated (hact : entry.act = .invalidate key)
  | cleared (hact : entry.act = .clear)
  | evicted (hevicts : entry.Evicts key)
  /-- A lookup takes away what it finds too old. -/
  | expired {found : Option α} (hact : entry.act = .lookUp key found) (hlost : key ∈ entry.lost)

/-- Holds if a key is stored that was not on the shelf. -/
def isArrival (entry : Entry κ α) : Bool :=
  match entry.act with
  | .store key _ => key ∉ entry.before
  | _ => false

/-- The keys that the shelf has lost otherwise than by an eviction. -/
def removed (entry : Entry κ α) : List κ :=
  match entry.act with
  | .store .. => []
  | _ => entry.lost

/-- A store makes the shelf lose a key exactly if its own key is new and the shelf is full, and then the one key
that has not been used for the longest time. -/
def EvictsLeastRecent (capacity : Nat) (front : Ledger κ α) (entry : Entry κ α) : Prop :=
  ∀ key value, entry.act = .store key value →
    ((∃ other, entry.Evicts other) ↔ key ∉ entry.before ∧ entry.before.length = capacity) ∧
    ∀ other, entry.Evicts other ↔
      (key ∉ entry.before ∧ entry.before.length = capacity) ∧ IsLeastRecent front entry.before other

theorem mem_lost_iff {entry : Entry κ α} {key : κ} : key ∈ entry.lost ↔ key ∈ entry.before ∧ key ∉ entry.after := by
  simp [lost]

/-- Where nothing is added, what stays and what is lost make up what was there. -/
theorem length_lost_add {entry : Entry κ α} (hbefore : entry.before.Nodup) (hafter : entry.after.Nodup)
    (hsubset : entry.after ⊆ entry.before) : entry.lost.length + entry.after.length = entry.before.length := by
  have hkept : (entry.before.filter (· ∈ entry.after)).length = entry.after.length := by
    refine ((List.perm_ext_iff_of_nodup (hbefore.filter _) hafter).2 fun key => ?_).length_eq
    rw [List.mem_filter, decide_eq_true_eq, and_iff_right_of_imp (hsubset ·)]
  rw [List.length_eq_length_filter_add (l := entry.before) (· ∈ entry.after), hkept, Nat.add_comm, lost]
  simp

end Entry

/-- The value was stored at the instant, and since then neither has the key been stored again nor has it gone. -/
def IsLastStore [DecidableEq κ] (ledger : Ledger κ α) (key : κ) (value : α) (storedAt : Instant) : Prop :=
  ∃ front entry back, ledger = front ++ entry :: back ∧ entry.act = .store key value ∧ entry.now = storedAt ∧
    ∀ later ∈ back, (∀ value, later.act ≠ .store key value) ∧ ¬ later.Removes key

theorem usedSince_concat_iff {ledger : Ledger κ α} {new : Entry κ α} {key other : κ} :
    UsedSince (ledger ++ [new]) key other ↔ new.act.Uses other ∨ UsedSince ledger key other ∧ ¬ new.act.Uses key :=
  exists_last_concat_iff

theorem isLastStore_concat_iff [DecidableEq κ] {ledger : Ledger κ α} {new : Entry κ α} {key : κ} {value : α}
    {storedAt : Instant} : IsLastStore (ledger ++ [new]) key value storedAt ↔
      new.act = .store key value ∧ new.now = storedAt ∨
        IsLastStore ledger key value storedAt ∧ (∀ value, new.act ≠ .store key value) ∧ ¬ new.Removes key := by
  simp only [IsLastStore, ← and_assoc (b := _ = storedAt)]
  exact exists_last_concat_iff

theorem Act.Uses.unique {act : Act κ α} {key other : κ} (hkey : act.Uses key) (hother : act.Uses other) :
    key = other := by
  cases act with
  | store | lookUp | lookAgain => exact hkey.symm.trans hother
  | invalidate | clear => exact hkey.elim

/-- Of two keys one was used later than the other. -/
theorem UsedSince.asymm {ledger : Ledger κ α} {key other : κ} (hne : key ≠ other) (hused : UsedSince ledger key other) :
    ¬ UsedSince ledger other key := by
  induction ledger using List.reverseRecOn with
  | nil =>
    obtain ⟨front, entry, back, hsplit, -⟩ := hused
    simp at hsplit
  | append_singleton ledger new ih =>
    rw [usedSince_concat_iff] at hused ⊢
    rintro (hkey | ⟨hkey, hnot⟩)
    · rcases hused with hother | ⟨-, hnot⟩
      · exact hne (hkey.unique hother)
      · exact hnot hkey
    · rcases hused with hother | ⟨hother, -⟩
      · exact hnot hother
      · exact ih hother hkey

end ChatNotify.Cache
