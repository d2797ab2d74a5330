import PropertyGraph.Sorting.Search

/-!
# Merging two runs

Two runs that follow each other are merged into one. What already is in its place at the two ends
is left there, and the rest is merged from the side of the shorter run. As long as neither run wins
many times in a row, items are taken singly; then the merge gallops, taking at once all items of one
run that go ahead of the next item of the other. How many wins in a row it takes is the patience of
the merge: it falls while galloping pays and rises when it does not, and outlasts the merge.

Whatever the comparison says, a merge only rearranges: this is `merge_perm`.
-/

namespace PropertyGraph.Sorting

variable {α : Type}

/-- As many items taken at once make galloping worth while; it is also the first patience. -/
def worthwhile : Nat := 7

/-- A merge on its way: the run that is held back, the other run, and what has been taken. -/
structure Merging (α : Type) where
  held : List α
  other : List α
  taken : List α

/-- How a merge goes on: by single items, with the wins of both runs in a row, or by galloping. -/
inductive Pace where
  | single (heldWins otherWins : Nat)
  | gallop

namespace Merging

/-- A merge is over when the other run is empty or the held run has no more than one item. -/
def isOver (m : Merging α) : Bool := m.held.length ≤ 1 || m.other.isEmpty

/-- All items, in the order in which a merge that is over leaves them. -/
def result (m : Merging α) : List α := m.taken ++ m.other ++ m.held

/-- Takes the next item of one of the runs, and counts the wins in a row. -/
def takeOne (ahead : α → α → Bool) (heldWins otherWins : Nat) (m : Merging α) :
    Merging α × Nat × Nat :=
  match m.held, m.other with
  | x :: held, y :: other =>
    if ahead y x then ({ m with other, taken := m.taken ++ [y] }, 0, otherWins + 1)
    else ({ m with held, taken := m.taken ++ [x] }, heldWins + 1, 0)
  | _, _ => (m, heldWins, otherWins)

/--
The first items of a run that pass a test, and what follows them. A run that is merged from its end
is given in reverse, but searched by its own places.
-/
def splitFront (fromEnd : Bool) (p : α → Bool) (items : List α) : List α × List α :=
  let n := items.length
  items.splitAt <|
    if fromEnd then n - boundary (fun x => !p x) items.reverse (n - 1) else boundary p items 0

/-- Takes the items of the held run that are not after the next of the other, and then that one. -/
def gallopHeld (ahead : α → α → Bool) (fromEnd : Bool) (m : Merging α) : Merging α × Nat :=
  if m.isOver then (m, 0)
  else
    match m.other with
    | [] => (m, 0)
    | y :: other =>
      let (part, held) := splitFront fromEnd (fun x => !ahead y x) m.held
      if held.length ≤ 1 then ({ m with held, taken := m.taken ++ part }, part.length)
      else (⟨held, other, m.taken ++ part ++ [y]⟩, part.length)

/-- Takes the items of the other run that are before the next of the held one, and then that one. -/
def gallopOther (ahead : α → α → Bool) (fromEnd : Bool) (m : Merging α) : Merging α × Nat :=
  if m.isOver then (m, 0)
  else
    match m.held with
    | [] => (m, 0)
    | x :: held =>
      let (part, other) := splitFront fromEnd (fun y => ahead y x) m.other
      if other.isEmpty then ({ m with other, taken := m.taken ++ part }, part.length)
      else (⟨held, other, m.taken ++ part ++ [x]⟩, part.length)

/--
Gallops through both runs, that of the lower items first, and tells the larger number of items taken
at once.
-/
def gallopBoth (ahead : α → α → Bool) (fromEnd : Bool) (m : Merging α) : Merging α × Nat :=
  let (first, second) := if fromEnd then (gallopOther, gallopHeld) else (gallopHeld, gallopOther)
  let (m, k) := first ahead fromEnd m
  let (m, l) := second ahead fromEnd m
  (m, max k l)

/--
Goes on with a merge, and tells the patience that is left. Each round takes an item or ends the
merge, so fuel for all items is never used up.
-/
def run (ahead : α → α → Bool) (fromEnd : Bool) : Nat → Nat → Pace → Merging α → Merging α × Nat
  | 0, patience, _, m => (m, patience)
  | fuel + 1, patience, pace, m =>
    if m.isOver then (m, patience)
    else
      match pace with
      | .single heldWins otherWins =>
        let (m, heldWins, otherWins) := m.takeOne ahead heldWins otherWins
        let pace := if patience ≤ max heldWins otherWins then .gallop
          else .single heldWins otherWins
        run ahead fromEnd fuel patience pace m
      | .gallop =>
        let (m, most) := m.gallopBoth ahead fromEnd
        if m.isOver then (m, patience)
        else if worthwhile ≤ most then run ahead fromEnd fuel (max 1 (patience - 1)) .gallop m
        else run ahead fromEnd fuel (patience + 1) (.single 0 0) m

end Merging

/-- Merges two runs of which the other one starts, and tells the patience that is left. -/
def mergeFrom (ahead : α → α → Bool) (fromEnd : Bool) (patience : Nat) (held other : List α) :
    List α × Nat :=
  let start : Merging α := ⟨held, other.drop 1, other.take 1⟩
  let (m, patience) := start.run ahead fromEnd (held.length + other.length) patience (.single 0 0)
  (m.result, patience)

/-- Merges two runs that follow each other, and tells the patience that is left. -/
def merge (lt : α → α → Bool) (patience : Nat) (lower upper : List α) : List α × Nat :=
  let (before, lower) := lower.splitAt (boundary (fun x => !upper.head?.any (lt · x)) lower 0)
  let last := upper.length - 1
  let (upper, after) := upper.splitAt (boundary (fun y => lower.getLast?.any (lt y ·)) upper last)
  let (merged, patience) :=
    if lower.isEmpty || upper.isEmpty then (lower ++ upper, patience)
    else if lower.length ≤ upper.length then mergeFrom lt false patience lower upper
    else
      let (merged, patience) :=
        mergeFrom (fun x y => lt y x) true patience upper.reverse lower.reverse
      (merged.reverse, patience)
  (before ++ merged ++ after, patience)

/-! ## A merge only rearranges -/

/-- A part of the held run may as well be taken before the other run. -/
theorem perm_take_held (taken part other held : List α) :
    (taken ++ part ++ other ++ held).Perm (taken ++ other ++ (part ++ held)) := by
  have h : (part ++ other).Perm (other ++ part) := List.perm_append_comm
  simpa [List.append_assoc] using (h.append_right held).append_left taken

namespace Merging

theorem splitFront_append (fromEnd : Bool) (p : α → Bool) (items : List α) :
    (splitFront fromEnd p items).1 ++ (splitFront fromEnd p items).2 = items := by
  simp [splitFront, List.splitAt_eq, List.take_append_drop]

theorem takeOne_perm (ahead : α → α → Bool) (h o : Nat) (m : Merging α) :
    (m.takeOne ahead h o).1.result.Perm m.result := by
  obtain ⟨held, other, taken⟩ := m
  simp only [takeOne]
  split
  · next x held y other =>
    split
    · simp [result]
    · simpa [result] using perm_take_held taken [x] (y :: other) held
  · exact .refl _

theorem gallopHeld_perm (ahead : α → α → Bool) (fromEnd : Bool) (m : Merging α) :
    (m.gallopHeld ahead fromEnd).1.result.Perm m.result := by
  obtain ⟨held, other, taken⟩ := m
  simp only [gallopHeld]
  split
  · exact .refl _
  · split
    · exact .refl _
    · next _ y other _ =>
      have e := splitFront_append fromEnd (fun x => !ahead y x) held
      generalize splitFront fromEnd (fun x => !ahead y x) held = s at e ⊢
      obtain ⟨part, rest⟩ := s
      subst e
      dsimp only
      split
      · exact perm_take_held taken part (y :: other) rest
      · simpa [result] using perm_take_held taken part (y :: other) rest

theorem gallopOther_perm (ahead : α → α → Bool) (fromEnd : Bool) (m : Merging α) :
    (m.gallopOther ahead fromEnd).1.result.Perm m.result := by
  obtain ⟨held, other, taken⟩ := m
  simp only [gallopOther]
  split
  · exact .refl _
  · split
    · exact .refl _
    · next _ x held _ =>
      have e := splitFront_append fromEnd (fun y => ahead y x) other
      generalize splitFront fromEnd (fun y => ahead y x) other = s at e ⊢
      obtain ⟨part, rest⟩ := s
      subst e
      dsimp only
      split
      · simp [result]
      · simpa [result] using perm_take_held (taken ++ part) [x] rest held

theorem gallopBoth_perm (ahead : α → α → Bool) (fromEnd : Bool) (m : Merging α) :
    (m.gallopBoth ahead fromEnd).1.result.Perm m.result := by
  cases fromEnd
  · exact (gallopOther_perm ..).trans (gallopHeld_perm ..)
  · exact (gallopHeld_perm ..).trans (gallopOther_perm ..)

theorem run_perm (ahead : α → α → Bool) (fromEnd : Bool) (fuel patience : Nat) (pace : Pace)
    (m : Merging α) : (m.run ahead fromEnd fuel patience pace).1.result.Perm m.result := by
  induction fuel generalizing patience pace m with
  | zero => exact .refl _
  | succ fuel ih =>
    simp only [run]
    split
    · exact .refl _
    · split
      · exact (ih _ _ _).trans (takeOne_perm ..)
      · split
        · exact gallopBoth_perm ..
        · split <;> exact (ih _ _ _).trans (gallopBoth_perm ..)

end Merging

theorem mergeFrom_perm (ahead : α → α → Bool) (fromEnd : Bool) (patience : Nat)
    (held other : List α) :
    (mergeFrom ahead fromEnd patience held other).1.Perm (other ++ held) := by
  refine (Merging.run_perm ..).trans (.of_eq ?_)
  rw [Merging.result, List.take_append_drop]

theorem merge_perm (lt : α → α → Bool) (patience : Nat) (lower upper : List α) :
    (merge lt patience lower upper).1.Perm (lower ++ upper) := by
  simp only [merge, List.splitAt_eq]
  generalize boundary _ lower 0 = i
  generalize boundary _ upper _ = j
  have e : lower ++ upper
      = lower.take i ++ (lower.drop i ++ upper.take j) ++ upper.drop j := by
    simp [List.append_assoc, List.take_append_drop, ← List.append_assoc (lower.take i)]
  rw [e]
  refine ((List.Perm.append_left _ ?_)).append_right _
  split
  · exact .refl _
  · split
    · exact (mergeFrom_perm ..).trans List.perm_append_comm
    · refine (List.reverse_perm _).trans ((mergeFrom_perm ..).trans ?_)
      exact (List.reverse_perm _).append (List.reverse_perm _)

end PropertyGraph.Sorting
