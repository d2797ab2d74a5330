/-!
# Maps that keep the order of insertion

An ordered map is a list of entries with distinct keys. Assigning to a key that is present changes
its value and keeps its place; assigning to a new key puts the entry at the end. The list of entries
is the view: two maps are equal when they have the same entries in the same order.
-/

namespace PropertyGraph

/-- A finite map that lists its entries in order of insertion. -/
@[ext] structure OrderedMap (κ α : Type) where
  entries : List (κ × α)
  nodup_keys : (entries.map Prod.fst).Nodup

namespace OrderedMap

variable {κ α β : Type} [DecidableEq κ]

/-! ## Entries as a list -/

/-- Replaces the value at a key, or appends an entry. -/
def insertEntry (k : κ) (v : α) : List (κ × α) → List (κ × α)
  | [] => [(k, v)]
  | e :: es => if e.1 = k then (k, v) :: es else e :: insertEntry k v es

def eraseEntry (k : κ) (es : List (κ × α)) : List (κ × α) :=
  es.filter fun e => e.1 ≠ k

theorem map_fst_insertEntry (k : κ) (v : α) (es : List (κ × α)) :
    (insertEntry k v es).map Prod.fst
      = if k ∈ es.map Prod.fst then es.map Prod.fst else es.map Prod.fst ++ [k] := by
  induction es with
  | nil => simp [insertEntry]
  | cons e es ih =>
    by_cases h : e.1 = k
    · simp [insertEntry, h]
    · have h' : k ≠ e.1 := fun he => h he.symm
      simp only [insertEntry, h, if_false, List.map_cons, ih, List.mem_cons, h', false_or]
      split <;> simp

theorem nodup_insertEntry {k : κ} {v : α} {es : List (κ × α)} (h : (es.map Prod.fst).Nodup) :
    ((insertEntry k v es).map Prod.fst).Nodup := by
  rw [map_fst_insertEntry]
  split
  · exact h
  · next hk =>
    refine List.nodup_append.2 ⟨h, by simp, ?_⟩
    intro a ha b hb
    rw [List.mem_singleton.1 hb]
    exact fun hab => hk (hab ▸ ha)

theorem nodup_eraseEntry {k : κ} {es : List (κ × α)} (h : (es.map Prod.fst).Nodup) :
    ((eraseEntry k es).map Prod.fst).Nodup :=
  (List.Sublist.map Prod.fst List.filter_sublist).nodup h

/-! ## The map -/

def empty : OrderedMap κ α := ⟨[], List.nodup_nil⟩

instance : EmptyCollection (OrderedMap κ α) := ⟨empty⟩

instance : Inhabited (OrderedMap κ α) := ⟨∅⟩

instance [DecidableEq α] : DecidableEq (OrderedMap κ α) := fun a b =>
  decidable_of_iff (a.entries = b.entries) OrderedMap.ext_iff.symm

def size (m : OrderedMap κ α) : Nat := m.entries.length

def keys (m : OrderedMap κ α) : List κ := m.entries.map Prod.fst

def values (m : OrderedMap κ α) : List α := m.entries.map Prod.snd

def get? (m : OrderedMap κ α) (k : κ) : Option α := m.entries.lookup k

def contains (m : OrderedMap κ α) (k : κ) : Bool := m.keys.contains k

def insert (m : OrderedMap κ α) (k : κ) (v : α) : OrderedMap κ α :=
  ⟨insertEntry k v m.entries, nodup_insertEntry m.nodup_keys⟩

def erase (m : OrderedMap κ α) (k : κ) : OrderedMap κ α :=
  ⟨eraseEntry k m.entries, nodup_eraseEntry m.nodup_keys⟩

/-- Assigns the entries of a list one after the other. -/
def insertAll (m : OrderedMap κ α) (es : List (κ × α)) : OrderedMap κ α :=
  es.foldl (fun m e => m.insert e.1 e.2) m

/-- The map of a list of entries: the first entry of a key gives its place, the last its value. -/
def ofList (es : List (κ × α)) : OrderedMap κ α := insertAll ∅ es

/-- Assigns the entries of the second map to the first. -/
def merge (m n : OrderedMap κ α) : OrderedMap κ α := m.insertAll n.entries

/-- Changes every value and keeps the keys. -/
def map (f : α → β) (m : OrderedMap κ α) : OrderedMap κ β :=
  ⟨m.entries.map fun e => (e.1, f e.2), by
    have h : (m.entries.map fun e => (e.1, f e.2)).map Prod.fst = m.entries.map Prod.fst := by
      simp
    exact h ▸ m.nodup_keys⟩

/-- Keeps the entries that satisfy a condition. -/
def filter (p : κ → α → Bool) (m : OrderedMap κ α) : OrderedMap κ α :=
  ⟨m.entries.filter fun e => p e.1 e.2,
    (List.Sublist.map Prod.fst List.filter_sublist).nodup m.nodup_keys⟩

omit [DecidableEq κ] in
@[simp] theorem entries_empty : (∅ : OrderedMap κ α).entries = [] := rfl

@[simp] theorem entries_insert (m : OrderedMap κ α) (k : κ) (v : α) :
    (m.insert k v).entries = insertEntry k v m.entries := rfl

@[simp] theorem entries_erase (m : OrderedMap κ α) (k : κ) :
    (m.erase k).entries = eraseEntry k m.entries := rfl

/-- An assignment keeps the keys in their order and adds a new one at the end. -/
theorem keys_insert (m : OrderedMap κ α) (k : κ) (v : α) :
    (m.insert k v).keys = if k ∈ m.keys then m.keys else m.keys ++ [k] :=
  map_fst_insertEntry k v m.entries

end OrderedMap

end PropertyGraph
