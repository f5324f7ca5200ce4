namespace ChatNotify

/-- A finite map that keeps the order of its keys. -/
structure Table (κ : Type) (α : Type) where
  entries : List (κ × α) := []
  nodup_keys : (entries.map Prod.fst).Nodup := by simp

namespace Table

variable {κ α : Type}

instance : EmptyCollection (Table κ α) := ⟨⟨[], by simp⟩⟩

instance : Inhabited (Table κ α) := ⟨∅⟩

/-- The keys, in the order in which they came. -/
def keys (table : Table κ α) : List κ :=
  table.entries.map Prod.fst

/-- The values, in the order of their keys. -/
def values (table : Table κ α) : List α :=
  table.entries.map Prod.snd

/-- The number of keys. -/
def size (table : Table κ α) : Nat :=
  table.entries.length

/-- Holds when there is no key. -/
def isEmpty (table : Table κ α) : Bool :=
  table.entries.isEmpty

variable [DecidableEq κ]

/-- The value of the first entry with the key. -/
def lookup (key : κ) : List (κ × α) → Option α
  | [] => none
  | (other, value) :: rest => if other = key then some value else lookup key rest

/-- The value of a key. -/
def get? (table : Table κ α) (key : κ) : Option α :=
  lookup key table.entries

/-- Holds of the keys of the table. -/
def contains (table : Table κ α) (key : κ) : Bool :=
  (table.get? key).isSome

/-- Gives the key the value, in the key's place if it has one and else at the end. -/
def put (key : κ) (value : α) : List (κ × α) → List (κ × α)
  | [] => [(key, value)]
  | (other, old) :: rest =>
    if other = key then (key, value) :: rest else (other, old) :: put key value rest

theorem map_fst_put (key : κ) (value : α) (entries : List (κ × α)) :
    (put key value entries).map Prod.fst =
      if key ∈ entries.map Prod.fst then entries.map Prod.fst
      else entries.map Prod.fst ++ [key] := by
  induction entries with
  | nil => simp [put]
  | cons entry rest ih =>
    obtain ⟨other, old⟩ := entry
    by_cases h : other = key
    · simp [put, h]
    · have h' : key ≠ other := fun e => h e.symm
      simp only [put, h, if_false, List.map_cons, ih, List.mem_cons, h', false_or]
      split <;> simp

theorem nodup_put {key : κ} {value : α} {entries : List (κ × α)}
    (h : (entries.map Prod.fst).Nodup) : ((put key value entries).map Prod.fst).Nodup := by
  rw [map_fst_put]
  split
  · exact h
  · next hkey =>
    rw [List.nodup_append]
    refine ⟨h, by simp, ?_⟩
    rintro a ha b hb rfl
    simp only [List.mem_singleton] at hb
    exact hkey (hb ▸ ha)

/-- Gives the key the value, in the key's place if it has one and else at the end. -/
def insert (table : Table κ α) (key : κ) (value : α) : Table κ α :=
  ⟨put key value table.entries, nodup_put table.nodup_keys⟩

/-- Keeps the entries of which `p` holds. -/
def filter (table : Table κ α) (p : κ → α → Bool) : Table κ α :=
  ⟨table.entries.filter fun entry => p entry.1 entry.2,
    (List.filter_sublist.map _).nodup table.nodup_keys⟩

/-- Takes a key out. -/
def erase (table : Table κ α) (key : κ) : Table κ α :=
  table.filter fun other _ => other ≠ key

/-- The table of a list of entries; of two with one key the later one counts. -/
def ofList (entries : List (κ × α)) : Table κ α :=
  entries.foldl (fun table entry => table.insert entry.1 entry.2) ∅

theorem lookup_put (key other : κ) (value : α) (entries : List (κ × α)) :
    lookup other (put key value entries) = if key = other then some value else lookup other entries := by
  induction entries with
  | nil => simp [put, lookup]
  | cons entry rest ih =>
    obtain ⟨first, old⟩ := entry
    by_cases hk : first = key
    · subst hk
      simp only [put, if_true, lookup]
      split <;> simp_all
    · by_cases ho : first = other
      · subst ho
        have hk' : key ≠ first := fun e => hk e.symm
        simp [put, hk, lookup, hk']
      · simp [put, hk, lookup, ho, ih]

@[simp] theorem get?_empty (key : κ) : (∅ : Table κ α).get? key = none := rfl

/-- Inserting changes the value of one key. -/
theorem get?_insert (table : Table κ α) (key other : κ) (value : α) :
    (table.insert key value).get? other = if key = other then some value else table.get? other :=
  lookup_put key other value table.entries

omit [DecidableEq κ] in
theorem mem_keys_of_mem {entries : List (κ × α)} {key : κ} {value : α}
    (h : (key, value) ∈ entries) : key ∈ entries.map Prod.fst :=
  List.mem_map.2 ⟨_, h, rfl⟩

theorem lookup_eq_some_iff {entries : List (κ × α)} (h : (entries.map Prod.fst).Nodup) {key : κ}
    {value : α} : lookup key entries = some value ↔ (key, value) ∈ entries := by
  induction entries with
  | nil => simp [lookup]
  | cons entry rest ih =>
    obtain ⟨first, old⟩ := entry
    simp only [List.map_cons, List.nodup_cons] at h
    by_cases hk : first = key
    · subst hk
      simp only [lookup, if_true, Option.some.injEq, List.mem_cons, Prod.mk.injEq, true_and]
      constructor
      · exact fun e => .inl e.symm
      · rintro (e | e)
        · exact e.symm
        · exact absurd (mem_keys_of_mem e) h.1
    · simp only [lookup, hk, if_false, ih h.2, List.mem_cons, Prod.mk.injEq]
      constructor
      · exact .inr
      · rintro (⟨e, -⟩ | e)
        · exact absurd e.symm hk
        · exact e

/-- A key has a value exactly if the entry is there. -/
theorem get?_eq_some_iff {table : Table κ α} {key : κ} {value : α} :
    table.get? key = some value ↔ (key, value) ∈ table.entries :=
  lookup_eq_some_iff table.nodup_keys

/-- A key has no value exactly if it is not one of the keys. -/
theorem get?_eq_none_iff {table : Table κ α} {key : κ} : table.get? key = none ↔ key ∉ table.keys := by
  rw [Option.eq_none_iff_forall_ne_some]
  simp only [ne_eq, get?_eq_some_iff, keys, List.mem_map, Prod.exists, exists_and_right, exists_eq_right, not_exists]

theorem size_ne_zero_of_get? {table : Table κ α} {key : κ} {value : α} (hkey : table.get? key = some value) :
    table.size ≠ 0 := by
  intro hnone
  rw [get?_eq_some_iff, List.length_eq_zero_iff.1 hnone] at hkey
  cases hkey

/-- Inserting adds a key if it is not there. -/
theorem size_insert (table : Table κ α) (key : κ) (value : α) :
    (table.insert key value).size = if table.get? key = none then table.size + 1 else table.size := by
  have hkeys := congrArg List.length (map_fst_put key value table.entries)
  rw [List.length_map] at hkeys
  refine hkeys.trans ?_
  by_cases hkey : table.get? key = none
  · have hnew : key ∉ table.entries.map Prod.fst := get?_eq_none_iff.1 hkey
    rw [if_pos hkey, if_neg hnew, List.length_append, List.length_map]
    rfl
  · have hold : key ∈ table.entries.map Prod.fst := Decidable.not_not.1 (mt get?_eq_none_iff.2 hkey)
    rw [if_neg hkey, if_pos hold, List.length_map]
    rfl

/-- Filtering keeps the value of a key if `p` holds of the two. -/
theorem get?_filter (table : Table κ α) (p : κ → α → Bool) (key : κ) :
    (table.filter p).get? key = (table.get? key).filter (p key) := by
  apply Option.ext
  intro value
  rw [get?_eq_some_iff, Option.filter_eq_some_iff, get?_eq_some_iff]
  simp [filter]

theorem filter_put (p : κ → Bool) (key : κ) (value : α) (entries : List (κ × α)) :
    (put key value entries).filter (fun entry => p entry.1) =
      if p key then put key value (entries.filter fun entry => p entry.1)
      else entries.filter fun entry => p entry.1 := by
  induction entries with
  | nil => cases hkey : p key <;> simp [put, hkey]
  | cons entry rest ih =>
    obtain ⟨other, old⟩ := entry
    by_cases hsame : other = key
    · subst hsame
      cases hkey : p other <;> simp [put, hkey]
    · cases hother : p other <;> cases hkey : p key <;> simp_all [put]

/-- A key that is inserted passes a filter of keys or not; the entries that pass keep their places. -/
theorem filter_insert (table : Table κ α) (p : κ → Bool) (key : κ) (value : α) :
    (table.insert key value).filter (fun other _ => p other) =
      if p key then (table.filter fun other _ => p other).insert key value
      else table.filter fun other _ => p other := by
  have hentries := filter_put p key value table.entries
  split at hentries
  · next hkey => simp only [filter, insert, hentries, if_pos hkey]
  · next hkey => simp only [filter, insert, hentries, if_neg hkey]

/-- Erasing takes one key out. -/
theorem get?_erase (table : Table κ α) (key other : κ) :
    (table.erase key).get? other = if other = key then none else table.get? other := by
  rw [erase, get?_filter]
  cases table.get? other with
  | none => simp
  | some value => by_cases h : other = key <;> simp [Option.filter, h]

theorem mem_values_iff {table : Table κ α} {value : α} : value ∈ table.values ↔ ∃ key, table.get? key = some value := by
  simp only [values, List.mem_map, Prod.exists, exists_eq_right, get?_eq_some_iff]

/-- What a table has after an insertion is new or was there. -/
theorem eq_or_mem_of_mem_values_insert {table : Table κ α} {key : κ} {value other : α}
    (hother : other ∈ (table.insert key value).values) :
    other = value ∨ other ∈ table.values := by
  obtain ⟨place, hget⟩ := mem_values_iff.1 hother
  rw [get?_insert] at hget
  split at hget
  · exact .inl (Option.some.inj hget).symm
  · exact .inr (mem_values_iff.2 ⟨_, hget⟩)

/-- What was in a table is there after an insertion, but for what had the key. -/
theorem eq_or_mem_values_insert {table : Table κ α} {key : κ} {value other old : α}
    (hold : table.get? key = some old) (hother : other ∈ table.values) :
    other = old ∨ other ∈ (table.insert key value).values := by
  obtain ⟨place, hget⟩ := mem_values_iff.1 hother
  by_cases hplace : key = place
  · subst hplace
    exact .inl (Option.some.inj (hget.symm.trans hold))
  · exact .inr (mem_values_iff.2 ⟨place, by rwa [get?_insert, if_neg hplace]⟩)

theorem mem_values_insert_self {table : Table κ α} {key : κ} {value : α} :
    value ∈ (table.insert key value).values :=
  mem_values_iff.2 ⟨key, by rw [get?_insert, if_pos rfl]⟩

end Table

end ChatNotify
