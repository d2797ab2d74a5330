import Mathlib.Algebra.BigOperators.Group.List.Basic
import Mathlib.Algebra.GroupWithZero.Nat
import Mathlib.Algebra.Order.Group.Nat
import PropertyGraph.Proofs.OrderedMap
import PropertyGraph.Snapshot

/-!
# What a tally counts

A tally takes one item after the other: it counts an item that it has once more where it stands, and
starts a new one at the end. So it lists each item that occurs at its first occurrence, and what the
counts add up to, each with a weight of its item, is the sum of the weights of all items.
-/

namespace PropertyGraph

variable {α : Type} [DecidableEq α]

theorem tally_concat (items : List α) (b : α) :
    tally (items ++ [b]) = (tally items).insert b (((tally items).get? b).getD 0 + 1) := by
  unfold tally
  rw [List.foldl_append]
  rfl

/-- A tally has every item that occurs, with the number of times it does, and no other. -/
theorem get?_tally (items : List α) (a : α) :
    (tally items).get? a = if a ∈ items then some (items.count a) else none := by
  induction items using List.reverseRecOn with
  | nil => rfl
  | append_singleton items b ih =>
    have hcount : ((tally items).get? a).getD 0 = items.count a := by
      rw [ih]
      split
      · rfl
      · exact (List.count_eq_zero.mpr ‹_›).symm
    rw [tally_concat, OrderedMap.get?_insert, List.count_append]
    by_cases hab : a = b
    · subst hab
      rw [if_pos rfl, hcount, if_pos (by simp), List.count_singleton_self]
    · have hnot : [b].count a = 0 := List.count_eq_zero.mpr (by simpa using hab)
      rw [if_neg hab, ih, hnot, Nat.add_zero]
      simp [hab]

theorem mem_entries_tally {items : List α} {a : α} {k : Nat} :
    (a, k) ∈ (tally items).entries ↔ 0 < k ∧ k = items.count a := by
  rw [← OrderedMap.get?_eq_some_iff, get?_tally]
  by_cases ha : a ∈ items
  · have hpos := List.count_pos_iff.mpr ha
    rw [if_pos ha, Option.some.injEq]
    omega
  · have hzero := List.count_eq_zero.mpr ha
    rw [if_neg ha]
    simp
    omega

/-- A tally lists the items in the order of first occurrence. -/
theorem keys_tally (items : List α) : (tally items).keys = items.eraseDups := by
  induction items using List.reverseRecOn with
  | nil => rfl
  | append_singleton items b ih =>
    rw [tally_concat, OrderedMap.keys_insert, ih, OrderedMap.eraseDups_concat]
    simp only [List.mem_eraseDups]

/-- **Counts add up.** Each with a weight of its item, they have the sum of all weights. -/
theorem sum_tally (weight : α → Nat) (items : List α) :
    ((tally items).entries.map fun e => weight e.1 * e.2).sum = (items.map weight).sum := by
  induction items using List.reverseRecOn with
  | nil => rfl
  | append_singleton items b ih =>
    rw [tally_concat, List.map_append, List.sum_append, ← ih, List.map_singleton,
      List.sum_singleton]
    by_cases hb : b ∈ items
    · -- the count of the item is one more, and no other count changes
      have hentry : (b, items.count b) ∈ (tally items).entries :=
        mem_entries_tally.mpr ⟨List.count_pos_iff.mpr hb, rfl⟩
      obtain ⟨before, after, hbefore, hafter⟩ := OrderedMap.entries_insert_of_mem hentry
        (((tally items).get? b).getD 0 + 1)
      rw [hafter, hbefore, OrderedMap.get?_eq_some_iff.mpr hentry, Option.getD_some]
      simp only [List.map_append, List.map_cons, List.sum_append, List.sum_cons, Nat.mul_succ]
      omega
    · have hfresh : b ∉ (tally items).keys := by
        rw [keys_tally]
        exact fun h => hb (List.mem_eraseDups.mp h)
      rw [OrderedMap.entries_insert_of_not_mem hfresh, get?_tally, if_neg hb]
      simp

/-- How counts of items are to be listed. -/
structure Counts (m : OrderedMap α Nat) (items : List α) : Prop where
  /-- Exactly the items that occur are counted, each as often as it occurs. -/
  exact : ∀ a k, (a, k) ∈ m.entries ↔ 0 < k ∧ k = items.count a
  /-- No count is zero. -/
  positive : ∀ k ∈ m.values, 0 < k
  /-- Items come in the order of first occurrence. -/
  order : m.keys = items.eraseDups
  /-- All items are counted. -/
  total : m.values.sum = items.length

theorem counts_tally (items : List α) : Counts (tally items) items where
  exact _ _ := mem_entries_tally
  positive := by
    intro k hk
    obtain ⟨a, ha⟩ := OrderedMap.mem_values.mp hk
    exact (mem_entries_tally.mp ha).1
  order := keys_tally items
  total := by
    have hsum := sum_tally (fun _ => 1) items
    simpa [OrderedMap.values] using hsum

/-! ## Items that descend -/

/-- A tally of numbers that descend lists each of them once, and in descending order. -/
theorem keys_tally_of_descending {ds : List Nat} (h : ds.Pairwise fun a b => b ≤ a) :
    (tally ds).keys.Pairwise fun a b => b < a := by
  have hle : (tally ds).keys.Pairwise fun a b => b ≤ a :=
    keys_tally ds ▸ OrderedMap.pairwise_eraseDups h
  refine (hle.and (tally ds).nodup_keys).imp fun hab => ?_
  obtain ⟨hle, hne⟩ := hab
  omega

/-- The first number is the greatest, -/
theorem head?_tally_of_descending {ds : List Nat} (h : ds.Pairwise fun a b => b ≤ a)
    (hne : ds ≠ []) : (tally ds).keys.head? = some (ds.max?.getD 0) := by
  obtain ⟨top, htop⟩ := Option.ne_none_iff_exists'.mp (mt List.max?_eq_none_iff.mp hne)
  obtain ⟨hin, hall⟩ := List.max?_eq_some_iff.mp htop
  have hkeys := keys_tally_of_descending h
  have hmem : ∀ d, d ∈ (tally ds).keys ↔ d ∈ ds := fun d => by rw [keys_tally, List.mem_eraseDups]
  generalize (tally ds).keys = ks at hkeys hmem
  cases ks with
  | nil => exact absurd ((hmem top).mpr hin) List.not_mem_nil
  | cons k ks =>
    have hle : k ≤ top := hall k ((hmem k).mp List.mem_cons_self)
    rw [htop, List.head?_cons, Option.getD_some, Option.some.injEq]
    rcases List.mem_cons.mp ((hmem top).mpr hin) with heq | hlater
    · exact heq.symm
    · have hlt := List.rel_of_pairwise_cons hkeys hlater
      omega

/-- and the last is the least. -/
theorem getLast?_tally_of_descending {ds : List Nat} (h : ds.Pairwise fun a b => b ≤ a)
    (hne : ds ≠ []) : (tally ds).keys.getLast? = some (ds.min?.getD 0) := by
  obtain ⟨low, hlow⟩ := Option.ne_none_iff_exists'.mp (mt List.min?_eq_none_iff.mp hne)
  obtain ⟨hin, hall⟩ := List.min?_eq_some_iff.mp hlow
  have hkeys := keys_tally_of_descending h
  have hmem : ∀ d, d ∈ (tally ds).keys ↔ d ∈ ds := fun d => by rw [keys_tally, List.mem_eraseDups]
  generalize (tally ds).keys = ks at hkeys hmem
  rcases List.eq_nil_or_concat' ks with rfl | ⟨init, k, rfl⟩
  · exact absurd ((hmem low).mpr hin) List.not_mem_nil
  · have hle : low ≤ k := hall k ((hmem k).mp (by simp))
    rw [hlow, List.getLast?_concat, Option.getD_some, Option.some.injEq]
    rcases List.mem_append.mp ((hmem low).mpr hin) with hearlier | heq
    · have hlt := (List.pairwise_append.mp hkeys).2.2 low hearlier k (List.mem_singleton.mpr rfl)
      omega
    · exact (List.mem_singleton.mp heq).symm

end PropertyGraph
