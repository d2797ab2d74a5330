import PropertyGraph.Snapshot
import PropertyGraph.Sorting.Runs

/-!
# Choosing and ranking

An analysis may be restricted to relationships of some types, and its ranking to the first entries.
A ranking goes from the highest score to the lowest; nodes with equal scores keep their order.
-/

namespace PropertyGraph.Analytics

/-- The relationships of the given types, or all if no type is given. -/
def ofTypes (types : List String) (relationships : List Relationship) : List Relationship :=
  if types.isEmpty then relationships else relationships.filter fun r => types.contains r.type

/--
The first entries of a ranking: as many as stated, all if the number is zero or not stated, and all
but as many of the last if it is negative.
-/
def takeTop {α : Type} (top : Option Int) (entries : List α) : List α :=
  match top with
  | none => entries
  | some k =>
    if k = 0 then entries
    else if 0 < k then entries.take k.toNat
    else entries.take (entries.length - (-k).toNat)

/--
Entries from the highest score to the lowest, those with equal scores in their order. A score that
differs from itself is comparable to none; if there is one, the order is that in which sorting by
runs leaves the entries.
-/
def rank {α β : Type} [BEq β] [LT β] [DecidableLT β] (score : α → β) (entries : List α) : List α :=
  if entries.all fun a => score a == score a then
    entries.mergeSort fun a b => !decide (score a < score b)
  else (Sorting.sort (fun a b => decide (score a < score b)) entries.reverse).reverse

/-- A ranking only rearranges, whatever the scores are. -/
theorem rank_perm {α β : Type} [BEq β] [LT β] [DecidableLT β] (score : α → β)
    (entries : List α) : (rank score entries).Perm entries := by
  simp only [rank]
  split
  · exact List.mergeSort_perm ..
  · exact (List.reverse_perm _).trans ((Sorting.sort_perm ..).trans (List.reverse_perm _))

/-- Where every score equals itself, a ranking is a stable sort. -/
theorem rank_eq_mergeSort {α β : Type} [BEq β] [ReflBEq β] [LT β] [DecidableLT β]
    (score : α → β) (entries : List α) :
    rank score entries = entries.mergeSort fun a b => !decide (score a < score b) := by
  simp [rank]

end PropertyGraph.Analytics
