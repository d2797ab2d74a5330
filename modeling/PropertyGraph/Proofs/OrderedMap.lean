import Mathlib.Data.List.Basic
import Mathlib.Data.List.Induction
import Mathlib.Data.List.Nodup
import PropertyGraph.OrderedMap

/-!
# What an assignment and a removal leave

Two views of a map are enough for everything that follows: which entries it has, and in which
order they stand. An assignment to a key that is present changes the entry there and no other;
`insertAll_fresh` says that assignments to new keys only append. Keys are distinct, so a look-up
finds an entry exactly if the entry is there.
-/

namespace PropertyGraph.OrderedMap

variable {κ α β : Type} [DecidableEq κ]

/-! ## Membership -/

theorem mem_insertEntry {k : κ} {v : α} {es : List (κ × α)} (hnd : (es.map Prod.fst).Nodup)
    (e : κ × α) : e ∈ insertEntry k v es ↔ e = (k, v) ∨ (e ∈ es ∧ e.1 ≠ k) := by
  induction es with
  | nil => simp [insertEntry]
  | cons d es ih =>
    rw [List.map_cons, List.nodup_cons] at hnd
    unfold insertEntry
    by_cases hd : d.1 = k
    · -- the key is found, and no later entry has it
      have hne : ∀ c ∈ es, c.1 ≠ k := by
        intro c hc heq
        exact hnd.1 (List.mem_map.mpr ⟨c, hc, by rw [heq, hd]⟩)
      rw [if_pos hd, List.mem_cons, List.mem_cons]
      constructor
      · rintro (h | h)
        · exact Or.inl h
        · exact Or.inr ⟨Or.inr h, hne e h⟩
      · rintro (h | ⟨h | h, hk⟩)
        · exact Or.inl h
        · exact absurd (h ▸ hd) hk
        · exact Or.inr h
    · rw [if_neg hd, List.mem_cons, List.mem_cons, ih hnd.2]
      constructor
      · rintro (h | h | ⟨h, hk⟩)
        · exact Or.inr ⟨Or.inl h, h ▸ hd⟩
        · exact Or.inl h
        · exact Or.inr ⟨Or.inr h, hk⟩
      · rintro (h | ⟨h | h, hk⟩)
        · exact Or.inr (Or.inl h)
        · exact Or.inl h
        · exact Or.inr (Or.inr ⟨h, hk⟩)

theorem mem_entries_insert {m : OrderedMap κ α} {k : κ} {v : α} {e : κ × α} :
    e ∈ (m.insert k v).entries ↔ e = (k, v) ∨ (e ∈ m.entries ∧ e.1 ≠ k) :=
  mem_insertEntry m.nodup_keys e

theorem mem_entries_erase {m : OrderedMap κ α} {k : κ} {e : κ × α} :
    e ∈ (m.erase k).entries ↔ e ∈ m.entries ∧ e.1 ≠ k := by
  rw [entries_erase, eraseEntry, List.mem_filter, decide_eq_true_iff]

omit [DecidableEq κ] in
theorem mem_keys {m : OrderedMap κ α} {k : κ} : k ∈ m.keys ↔ ∃ v, (k, v) ∈ m.entries := by
  unfold keys
  rw [List.mem_map]
  constructor
  · rintro ⟨⟨k', v⟩, h, rfl⟩
    exact ⟨v, h⟩
  · rintro ⟨v, h⟩
    exact ⟨(k, v), h, rfl⟩

omit [DecidableEq κ] in
theorem mem_values {m : OrderedMap κ α} {v : α} : v ∈ m.values ↔ ∃ k, (k, v) ∈ m.entries := by
  unfold values
  rw [List.mem_map]
  constructor
  · rintro ⟨⟨k, v'⟩, h, rfl⟩
    exact ⟨k, h⟩
  · rintro ⟨k, h⟩
    exact ⟨(k, v), h, rfl⟩

omit [DecidableEq κ] in
theorem length_keys (m : OrderedMap κ α) : m.keys.length = m.size := List.length_map Prod.fst

omit [DecidableEq κ] in
theorem length_values (m : OrderedMap κ α) : m.values.length = m.size := List.length_map Prod.snd

theorem contains_iff {m : OrderedMap κ α} {k : κ} : m.contains k = true ↔ k ∈ m.keys := by
  rw [contains, List.contains_iff_mem]

theorem contains_eq_false_iff {m : OrderedMap κ α} {k : κ} : m.contains k = false ↔ k ∉ m.keys := by
  rw [← contains_iff, Bool.not_eq_true]

theorem mem_keys_insert {m : OrderedMap κ α} {k k' : κ} {v : α} :
    k' ∈ (m.insert k v).keys ↔ k' = k ∨ k' ∈ m.keys := by
  rw [keys_insert]
  split
  · rename_i h
    constructor
    · exact Or.inr
    · rintro (rfl | h')
      · exact h
      · exact h'
  · rw [List.mem_append, List.mem_singleton, or_comm]

theorem mem_keys_erase {m : OrderedMap κ α} {k k' : κ} :
    k' ∈ (m.erase k).keys ↔ k' ∈ m.keys ∧ k' ≠ k := by
  rw [mem_keys, mem_keys]
  constructor
  · rintro ⟨v, h⟩
    obtain ⟨h1, h2⟩ := mem_entries_erase.mp h
    exact ⟨⟨v, h1⟩, h2⟩
  · rintro ⟨⟨v, h⟩, hk⟩
    exact ⟨v, mem_entries_erase.mpr ⟨h, hk⟩⟩

/-- A look-up finds an entry exactly if it is there. -/
theorem get?_eq_some_iff {m : OrderedMap κ α} {k : κ} {v : α} :
    m.get? k = some v ↔ (k, v) ∈ m.entries := by
  unfold get?
  have hnd := m.nodup_keys
  generalize m.entries = es at hnd
  induction es with
  | nil => simp
  | cons e es ih =>
    obtain ⟨k', v'⟩ := e
    rw [List.map_cons, List.nodup_cons] at hnd
    rw [List.lookup_cons, List.mem_cons]
    by_cases hk : k = k'
    · subst hk
      have hnot : (k, v) ∉ es := fun h => hnd.1 (List.mem_map.mpr ⟨_, h, rfl⟩)
      simp [hnot, eq_comm]
    · have hne : (k == k') = false := beq_false_of_ne hk
      rw [hne]
      simpa [hk] using ih hnd.2

/-- A key has one entry. -/
theorem eq_of_mem_entries {m : OrderedMap κ α} {d e : κ × α} (hd : d ∈ m.entries)
    (he : e ∈ m.entries) (h : d.1 = e.1) : d = e := by
  obtain ⟨k, v⟩ := d
  obtain ⟨k', v'⟩ := e
  obtain rfl : k = k' := h
  have hv := (get?_eq_some_iff.mpr hd).symm.trans (get?_eq_some_iff.mpr he)
  rw [Option.some.inj hv]

/-! ## Order -/

theorem insertEntry_of_not_mem {k : κ} {v : α} {es : List (κ × α)} (h : k ∉ es.map Prod.fst) :
    insertEntry k v es = es ++ [(k, v)] := by
  induction es with
  | nil => rfl
  | cons e es ih =>
    rw [List.map_cons, List.mem_cons, not_or] at h
    rw [insertEntry, if_neg (fun he => h.1 he.symm), ih h.2, List.cons_append]

theorem entries_insert_of_not_mem {m : OrderedMap κ α} {k : κ} {v : α} (h : k ∉ m.keys) :
    (m.insert k v).entries = m.entries ++ [(k, v)] :=
  insertEntry_of_not_mem h

/-- An assignment to a key that is there changes its entry where it stands. -/
theorem entries_insert_of_mem {m : OrderedMap κ α} {k : κ} {v : α} (h : (k, v) ∈ m.entries)
    (v' : α) : ∃ before after, m.entries = before ++ (k, v) :: after
      ∧ (m.insert k v').entries = before ++ (k, v') :: after := by
  obtain ⟨before, after, hm⟩ := List.append_of_mem h
  refine ⟨before, after, hm, ?_⟩
  have hnot : k ∉ before.map Prod.fst := by
    have hnd := m.nodup_keys
    rw [hm, List.map_append, List.map_cons] at hnd
    exact fun hk => (List.nodup_append.mp hnd).2.2 k hk k List.mem_cons_self rfl
  rw [entries_insert, hm]
  clear hm h
  induction before with
  | nil => rw [List.nil_append, insertEntry, if_pos rfl, List.nil_append]
  | cons e before ih =>
    rw [List.map_cons, List.mem_cons, not_or] at hnot
    rw [List.cons_append, insertEntry, if_neg fun he => hnot.1 he.symm, ih hnot.2,
      List.cons_append]

/-- A removal takes out the entry of a key that is there, and leaves all others where they stand. -/
theorem entries_erase_of_mem {m : OrderedMap κ α} {k : κ} {v : α} (h : (k, v) ∈ m.entries) :
    ∃ before after, m.entries = before ++ (k, v) :: after
      ∧ (m.erase k).entries = before ++ after := by
  obtain ⟨before, after, hm⟩ := List.append_of_mem h
  refine ⟨before, after, hm, ?_⟩
  have hnd := m.nodup_keys
  rw [hm, List.map_append, List.map_cons, List.nodup_middle] at hnd
  have hother : ∀ e ∈ before ++ after, e.1 ≠ k := by
    intro e he hk
    have hmem : e.1 ∈ before.map Prod.fst ++ after.map Prod.fst :=
      List.map_append ▸ List.mem_map_of_mem he
    exact (List.nodup_cons.mp hnd).1 (hk ▸ hmem)
  rw [entries_erase, eraseEntry, hm, List.filter_append, List.filter_cons_of_neg (by simp),
    ← List.filter_append]
  exact List.filter_eq_self.mpr fun e he => decide_eq_true (hother e he)

/-- Assignments to new keys append their entries. -/
theorem insertAll_fresh {m : OrderedMap κ α} {es : List (κ × α)}
    (hnew : ∀ e ∈ es, e.1 ∉ m.keys) (hnd : (es.map Prod.fst).Nodup) :
    (m.insertAll es).entries = m.entries ++ es := by
  unfold insertAll
  induction es generalizing m with
  | nil => simp
  | cons e es ih =>
    rw [List.map_cons, List.nodup_cons] at hnd
    have he : e.1 ∉ m.keys := hnew e List.mem_cons_self
    rw [List.foldl_cons, ih ?_ hnd.2, entries_insert_of_not_mem he, List.append_assoc]
    · rfl
    · -- the keys that follow are not the one just assigned
      intro d hd hk
      rcases mem_keys_insert.mp hk with h | h
      · exact hnd.1 (List.mem_map.mpr ⟨d, hd, h⟩)
      · exact hnew d (List.mem_cons_of_mem _ hd) h

/-- Entries with distinct keys are those of their map. -/
theorem entries_ofList {es : List (κ × α)} (hnd : (es.map Prod.fst).Nodup) :
    (ofList es).entries = es := by
  rw [ofList, insertAll_fresh (by simp [keys]) hnd, entries_empty, List.nil_append]

/-- The map of the entries of a map is that map. -/
theorem ofList_entries (m : OrderedMap κ α) : ofList m.entries = m := by
  ext1
  exact entries_ofList m.nodup_keys

/-! ## Items by first occurrence -/

/-- The last item of a list has its place already, unless it is new. -/
theorem eraseDups_concat (as : List κ) (a : κ) :
    (as ++ [a]).eraseDups = if a ∈ as then as.eraseDups else as.eraseDups ++ [a] := by
  rw [List.eraseDups_append]
  by_cases ha : a ∈ as
  · simp [List.removeAll, ha]
  · simp [List.removeAll, ha, List.eraseDups_cons]

theorem nodup_eraseDups (ks : List κ) : ks.eraseDups.Nodup := by
  induction ks using List.reverseRecOn with
  | nil => exact List.nodup_nil
  | append_singleton ks k ih =>
    rw [eraseDups_concat]
    split
    · exact ih
    · rename_i hk
      refine List.nodup_append.mpr ⟨ih, List.pairwise_singleton _ k, ?_⟩
      rintro a ha _ hb rfl
      rw [List.mem_singleton.mp hb] at ha
      exact hk (List.mem_eraseDups.mp ha)

theorem eraseDups_of_nodup {ks : List κ} (h : ks.Nodup) : ks.eraseDups = ks := by
  induction ks using List.reverseRecOn with
  | nil => rfl
  | append_singleton ks k ih =>
    obtain ⟨hks, -, hlast⟩ := List.nodup_append.mp h
    have hk : k ∉ ks := fun hmem => hlast k hmem k (List.mem_singleton.mpr rfl) rfl
    rw [eraseDups_concat, if_neg hk, ih hks]

theorem filter_eraseDups (p : κ → Bool) (ks : List κ) :
    ks.eraseDups.filter p = (ks.filter p).eraseDups := by
  induction ks using List.reverseRecOn with
  | nil => rfl
  | append_singleton ks k ih =>
    rw [eraseDups_concat, List.filter_append]
    by_cases hp : p k = true
    · rw [List.filter_cons_of_pos hp, List.filter_nil, eraseDups_concat, ← ih]
      by_cases hk : k ∈ ks
      · rw [if_pos hk, if_pos (List.mem_filter.mpr ⟨hk, hp⟩)]
      · rw [if_neg hk, if_neg fun h => hk (List.mem_filter.mp h).1, List.filter_append,
          List.filter_cons_of_pos hp, List.filter_nil]
    · rw [List.filter_cons_of_neg hp, List.filter_nil, List.append_nil, ← ih]
      split
      · rfl
      · rw [List.filter_append, List.filter_cons_of_neg hp, List.filter_nil, List.append_nil]

/-- What holds between items of a list, the earlier and the later, holds without repetitions. -/
theorem pairwise_eraseDups {r : κ → κ → Prop} {ks : List κ} (h : ks.Pairwise r) :
    ks.eraseDups.Pairwise r := by
  induction ks using List.reverseRecOn with
  | nil => exact List.Pairwise.nil
  | append_singleton ks k ih =>
    obtain ⟨hks, -, hlast⟩ := List.pairwise_append.mp h
    rw [eraseDups_concat]
    split
    · exact ih hks
    · refine List.pairwise_append.mpr ⟨ih hks, List.pairwise_singleton _ _, ?_⟩
      intro a ha
      exact hlast a (List.mem_eraseDups.mp ha)

/-! ## Assignments in sequence -/

theorem insertAll_append (m : OrderedMap κ α) (es fs : List (κ × α)) :
    m.insertAll (es ++ fs) = (m.insertAll es).insertAll fs := List.foldl_append

theorem get?_insert (m : OrderedMap κ α) (k k' : κ) (v : α) :
    (m.insert k v).get? k' = if k' = k then some v else m.get? k' := by
  by_cases hk : k' = k
  · rw [if_pos hk, hk]
    exact get?_eq_some_iff.mpr (mem_entries_insert.mpr (Or.inl rfl))
  · rw [if_neg hk]
    ext w
    rw [get?_eq_some_iff, get?_eq_some_iff, mem_entries_insert]
    simp [hk]

/-- Keys that are there keep their places, and new ones follow in the order of first occurrence. -/
theorem keys_insertAll (m : OrderedMap κ α) (es : List (κ × α)) :
    (m.insertAll es).keys
      = m.keys ++ ((es.map Prod.fst).filter fun k => k ∉ m.keys).eraseDups := by
  induction es using List.reverseRecOn with
  | nil => exact (List.append_nil _).symm
  | append_singleton es e ih =>
    rw [insertAll_append, List.map_append, List.map_singleton, List.filter_append]
    show ((m.insertAll es).insert e.1 e.2).keys = _
    rw [keys_insert]
    have hmem : e.1 ∈ (m.insertAll es).keys ↔ e.1 ∈ m.keys ∨ e.1 ∈ es.map Prod.fst := by
      rw [ih]
      simp only [List.mem_append, List.mem_eraseDups, List.mem_filter, decide_eq_true_iff]
      tauto
    by_cases hm : e.1 ∈ m.keys
    · rw [if_pos (hmem.mpr (Or.inl hm)), ih,
        List.filter_cons_of_neg (by simpa using hm), List.filter_nil, List.append_nil]
    · rw [List.filter_cons_of_pos (by simpa using hm), List.filter_nil, eraseDups_concat]
      by_cases he : e.1 ∈ es.map Prod.fst
      · rw [if_pos (hmem.mpr (Or.inr he)), if_pos (List.mem_filter.mpr ⟨he, decide_eq_true hm⟩), ih]
      · rw [if_neg fun h => (hmem.mp h).elim hm he, if_neg fun h => he (List.mem_filter.mp h).1, ih,
          List.append_assoc]

/-- The last entry that is assigned to a key decides its value. -/
theorem get?_insertAll (m : OrderedMap κ α) (es : List (κ × α)) (k : κ) :
    (m.insertAll es).get? k = (es.reverse.lookup k).or (m.get? k) := by
  induction es using List.reverseRecOn with
  | nil => rfl
  | append_singleton es e ih =>
    rw [insertAll_append]
    show ((m.insertAll es).insert e.1 e.2).get? k = _
    rw [get?_insert, ih, List.reverse_append, List.reverse_singleton, List.singleton_append,
      List.lookup_cons]
    by_cases hk : k = e.1
    · rw [if_pos hk, beq_iff_eq.mpr hk]
      rfl
    · rw [if_neg hk, beq_false_of_ne hk]

/-! ## The map of a list -/

/-- The keys of a list come in the order of first occurrence. -/
theorem keys_ofList (es : List (κ × α)) : (ofList es).keys = (es.map Prod.fst).eraseDups := by
  have hall : (es.map Prod.fst).filter (fun k => k ∉ (∅ : OrderedMap κ α).keys) = es.map Prod.fst :=
    List.filter_eq_self.mpr fun k _ => decide_eq_true List.not_mem_nil
  rw [ofList, keys_insertAll, hall]
  rfl

theorem mem_keys_ofList {es : List (κ × α)} {k : κ} (h : k ∈ (ofList es).keys) :
    k ∈ es.map Prod.fst := by
  rw [keys_ofList] at h
  exact List.mem_eraseDups.mp h

/-- The last entry of a key decides its value. -/
theorem get?_ofList (es : List (κ × α)) (k : κ) : (ofList es).get? k = es.reverse.lookup k := by
  rw [ofList, get?_insertAll]
  exact Option.or_none

/-! ## Maps by their keys and look-ups -/

/-- A map lists its keys, each with what a look-up finds. -/
theorem entries_eq_filterMap (m : OrderedMap κ α) :
    m.entries = m.keys.filterMap fun k => (m.get? k).map fun v => (k, v) := by
  symm
  unfold keys
  rw [List.filterMap_map]
  calc m.entries.filterMap _
    _ = m.entries.filterMap some := by
      refine List.filterMap_congr fun e he => ?_
      rw [Function.comp_apply, get?_eq_some_iff.mpr he]
      rfl
    _ = m.entries := List.filterMap_some

/-- Maps with the same keys in the same order are equal if look-ups find the same. -/
theorem ext_get? {m n : OrderedMap κ α} (hkeys : m.keys = n.keys)
    (hget : ∀ k, m.get? k = n.get? k) : m = n := by
  ext1
  rw [entries_eq_filterMap m, entries_eq_filterMap n, hkeys]
  simp only [hget]

/-- Of two assignments to one key, the second remains. -/
theorem insert_insert (m : OrderedMap κ α) (k : κ) (v w : α) :
    (m.insert k v).insert k w = m.insert k w := by
  refine ext_get? ?_ fun k' => ?_
  · rw [keys_insert, if_pos (mem_keys_insert.mpr (Or.inl rfl)), keys_insert, keys_insert]
  · rw [get?_insert, get?_insert, get?_insert]
    split <;> rfl

/-! ## Merging maps -/

/-- Keys that are there keep their places, and those of the second map follow in their order. -/
theorem keys_merge (m n : OrderedMap κ α) :
    (m.merge n).keys = m.keys ++ n.keys.filter fun k => k ∉ m.keys := by
  unfold merge
  rw [keys_insertAll]
  exact congrArg (m.keys ++ ·) (eraseDups_of_nodup (n.nodup_keys.filter _))

/-- What the second map has it decides. -/
theorem get?_merge (m n : OrderedMap κ α) (k : κ) :
    (m.merge n).get? k = (n.get? k).or (m.get? k) := by
  have hn := get?_ofList n.entries k
  rw [ofList_entries] at hn
  unfold merge
  rw [get?_insertAll, hn]

/-- Merging in the map of a list assigns the entries of the list. -/
theorem merge_ofList (m : OrderedMap κ α) (es : List (κ × α)) :
    m.merge (ofList es) = m.insertAll es := by
  refine ext_get? ?_ fun k => ?_
  · rw [keys_merge, keys_insertAll, keys_ofList, filter_eraseDups]
  · rw [get?_merge, get?_ofList, get?_insertAll]

theorem merge_assoc (m n p : OrderedMap κ α) : (m.merge n).merge p = m.merge (n.merge p) := by
  have hnp : n.merge p = ofList (n.entries ++ p.entries) := by
    conv_lhs => rw [← ofList_entries n]
    exact (insertAll_append ∅ n.entries p.entries).symm
  rw [hnp, merge_ofList, insertAll_append]
  rfl

@[simp] theorem merge_self (m : OrderedMap κ α) : m.merge m = m := by
  refine ext_get? ?_ fun k => ?_
  · rw [keys_merge, List.filter_eq_nil_iff.mpr fun k hk => by simpa using hk, List.append_nil]
  · rw [get?_merge, Option.or_self]

/-- What maps, merged in one after the other, are to leave of a map. -/
structure Merges (m : OrderedMap κ α) (given : List (OrderedMap κ α)) (left : OrderedMap κ α) :
    Prop where
  eq : left = given.foldl merge m
  /-- Keys that are there keep their places, and new ones follow as they first occur. -/
  places : left.keys
    = m.keys ++ ((given.flatMap keys).filter fun k => k ∉ m.keys).eraseDups
  /-- A key has the value that was given last, or the one it had if none was given. -/
  last : ∀ k, left.get? k = (given.reverse.findSome? (·.get? k)).or (m.get? k)

theorem foldl_merge (m : OrderedMap κ α) (given : List (OrderedMap κ α)) :
    given.foldl merge m = m.insertAll (given.flatMap entries) := by
  induction given generalizing m with
  | nil => rfl
  | cons n given ih => rw [List.foldl_cons, ih, List.flatMap_cons, insertAll_append, merge]

theorem merges_foldl (m : OrderedMap κ α) (given : List (OrderedMap κ α)) :
    m.Merges given (given.foldl merge m) where
  eq := rfl
  places := by
    rw [foldl_merge, keys_insertAll, List.map_flatMap]
    rfl
  last := by
    intro k
    induction given generalizing m with
    | nil => rfl
    | cons n given ih =>
      rw [List.foldl_cons, ih, get?_merge, List.reverse_cons, List.findSome?_append,
        List.findSome?_singleton, Option.or_assoc]

/-! ## Changing every value -/

omit [DecidableEq κ] in
@[simp] theorem keys_map (f : α → β) (m : OrderedMap κ α) : (m.map f).keys = m.keys := by
  unfold keys map
  rw [List.map_map]
  rfl

theorem get?_map (f : α → β) (m : OrderedMap κ α) (k : κ) :
    (m.map f).get? k = (m.get? k).map f := by
  show (m.entries.map fun e => (e.1, f e.2)).lookup k = (m.entries.lookup k).map f
  generalize m.entries = es
  induction es with
  | nil => rfl
  | cons e es ih =>
    rw [List.map_cons, List.lookup_cons, List.lookup_cons, ih]
    cases k == e.1 <;> rfl

theorem map_insert (f : α → β) (m : OrderedMap κ α) (k : κ) (v : α) :
    (m.insert k v).map f = (m.map f).insert k (f v) := by
  ext1
  show (insertEntry k v m.entries).map (fun e => (e.1, f e.2))
    = insertEntry k (f v) (m.entries.map fun e => (e.1, f e.2))
  induction m.entries with
  | nil => rfl
  | cons e es ih =>
    rw [List.map_cons, insertEntry, insertEntry]
    by_cases he : e.1 = k
    · rw [if_pos he, if_pos he, List.map_cons]
    · rw [if_neg he, if_neg he, List.map_cons, ih]

/-! ## Removing several keys -/

/-- Removing keys keeps the entries at all others, in their order. -/
theorem entries_foldl_erase (m : OrderedMap κ α) (ks : List κ) :
    (ks.foldl erase m).entries = m.entries.filter fun e => e.1 ∉ ks := by
  induction ks generalizing m with
  | nil => exact (List.filter_eq_self.mpr fun e _ => decide_eq_true List.not_mem_nil).symm
  | cons k ks ih =>
    rw [List.foldl_cons, ih, entries_erase, eraseEntry, List.filter_filter]
    refine List.filter_congr fun e _ => ?_
    rw [← Bool.decide_and, decide_eq_decide, List.mem_cons, not_or, and_comm]

theorem mem_entries_foldl_erase {m : OrderedMap κ α} {ks : List κ} {e : κ × α} :
    e ∈ (ks.foldl erase m).entries ↔ e ∈ m.entries ∧ e.1 ∉ ks := by
  rw [entries_foldl_erase, List.mem_filter, decide_eq_true_iff]

end PropertyGraph.OrderedMap
