/-!
# Maps in insertion order

An `OrderedMap` is a list of entries.  A key that is inserted again keeps its first position and
takes the new value; a key that is new goes to the end (`keys_insert`).
-/

namespace PolySql

/-- Keys with values, in the order in which the keys were first inserted. -/
structure OrderedMap (κ : Type) (α : Type) where
  entries : List (κ × α)
  deriving DecidableEq, Repr

namespace OrderedMap

variable {κ α : Type}

def empty : OrderedMap κ α := ⟨[]⟩

instance : EmptyCollection (OrderedMap κ α) := ⟨empty⟩

instance : Inhabited (OrderedMap κ α) := ⟨empty⟩

def keys (m : OrderedMap κ α) : List κ := m.entries.map Prod.fst

def values (m : OrderedMap κ α) : List α := m.entries.map Prod.snd

def size (m : OrderedMap κ α) : Nat := m.entries.length

def get? [BEq κ] (m : OrderedMap κ α) (key : κ) : Option α := m.entries.lookup key

def contains [BEq κ] (m : OrderedMap κ α) (key : κ) : Bool := (m.get? key).isSome

/-- The entries with `key` bound to `value`. -/
def insertEntry [BEq κ] (key : κ) (value : α) : List (κ × α) → List (κ × α)
  | [] => [(key, value)]
  | entry :: entries =>
    if key == entry.1 then (entry.1, value) :: entries else entry :: insertEntry key value entries

def insert [BEq κ] (m : OrderedMap κ α) (key : κ) (value : α) : OrderedMap κ α :=
  ⟨insertEntry key value m.entries⟩

/-- The entries inserted one after the other. -/
def ofList [BEq κ] (entries : List (κ × α)) : OrderedMap κ α :=
  entries.foldl (fun m entry => m.insert entry.1 entry.2) empty

@[simp] theorem entries_empty : (empty : OrderedMap κ α).entries = [] := rfl

@[simp] theorem size_empty : (empty : OrderedMap κ α).size = 0 := rfl

variable [BEq κ] [LawfulBEq κ]

theorem get?_insert_self (m : OrderedMap κ α) (key : κ) (value : α) :
    (m.insert key value).get? key = some value := by
  obtain ⟨entries⟩ := m
  simp only [get?, insert]
  induction entries with
  | nil => simp [insertEntry]
  | cons entry entries ih =>
    obtain ⟨k, v⟩ := entry
    by_cases h : key = k
    · simp [insertEntry, h]
    · have hne : (key == k) = false := by simpa using h
      simp [insertEntry, hne, List.lookup_cons, ih]

theorem get?_insert_of_ne (m : OrderedMap κ α) {key other : κ} (h : other ≠ key) (value : α) :
    (m.insert key value).get? other = m.get? other := by
  obtain ⟨entries⟩ := m
  have hne : (other == key) = false := by simpa using h
  simp only [get?, insert]
  induction entries with
  | nil => simp [insertEntry, List.lookup_cons, hne]
  | cons entry entries ih =>
    obtain ⟨k, v⟩ := entry
    by_cases hk : key = k
    · subst hk
      simp [insertEntry, List.lookup_cons, hne]
    · have hkey : (key == k) = false := by simpa using hk
      simp [insertEntry, hkey, List.lookup_cons, ih]

/-- A new key goes to the end, and a key that is there already stays where it is. -/
theorem keys_insert (m : OrderedMap κ α) (key : κ) (value : α) :
    (m.insert key value).keys = if key ∈ m.keys then m.keys else m.keys ++ [key] := by
  obtain ⟨entries⟩ := m
  simp only [keys, insert]
  induction entries with
  | nil => simp [insertEntry]
  | cons entry entries ih =>
    by_cases h : key = entry.1
    · simp [insertEntry, h]
    · have hne : (key == entry.1) = false := by simpa using h
      by_cases hm : key ∈ entries.map Prod.fst <;> simp_all [insertEntry]

/-- The entry of a new key goes to the end. -/
theorem entries_insert_of_not_mem {m : OrderedMap κ α} {key : κ} (h : key ∉ m.keys) (value : α) :
    (m.insert key value).entries = m.entries ++ [(key, value)] := by
  obtain ⟨entries⟩ := m
  simp only [keys, insert] at h ⊢
  induction entries with
  | nil => rfl
  | cons entry entries ih =>
    simp only [List.map_cons, List.mem_cons, not_or] at h
    have hne : (key == entry.1) = false := by simpa using h.1
    simp [insertEntry, hne, ih h.2]

end OrderedMap

end PolySql
