import PropertyGraph.Sorting.Merge

/-!
# Sorting by runs

A list is cut into runs that already rise, or fall and are turned round; a short run is filled up by
inserting the items after it. Runs are merged pairwise in an order that keeps the merges balanced:
the power of two neighbouring runs is the depth at which a halving of the whole list separates their
middles, and a pair of higher power is merged before one of lower power.

The sort is stable, and on a comparison that orders the items the result is the only stable one. On
any other comparison the result depends on which items are compared, but it has the same items:
this is `sort_perm`.
-/

namespace PropertyGraph.Sorting

variable {α : Type}

/-! ## Cutting -/

/-- The items at the front of a list that each stand in a relation to the one before; the rest. -/
def splitChain (p : α → α → Bool) (last : α) : List α → List α × List α
  | [] => ([], [])
  | x :: xs =>
    if p last x then
      let (chain, rest) := splitChain p x xs
      (x :: chain, rest)
    else ([], x :: xs)

/-- The run at the front of a list, rising, and what follows it. -/
def splitRun (lt : α → α → Bool) : List α → List α × List α
  | [] => ([], [])
  | x :: xs =>
    let falls := xs.head?.any (lt · x)
    let (chain, rest) := splitChain (fun a b => lt b a == falls) x xs
    (if falls then (x :: chain).reverse else x :: chain, rest)

/--
The length up to which runs are filled, such that the list has a power of two of them, or nearly.
-/
def leastLength (n : Nat) : Nat := if n < 64 then n else go n false
where
  /-- Halves a length and remembers whether anything was lost. -/
  go (n : Nat) (isInexact : Bool) : Nat :=
    if n < 64 then if isInexact then n + 1 else n
    else go (n / 2) (isInexact || n % 2 == 1)
  termination_by n

/-- Inserts an item into a run, after those that are not greater. -/
def insert (lt : α → α → Bool) (run : List α) (x : α) : List α :=
  let place := bisect (fun i => !run[i]?.any (lt x ·)) 0 run.length
  run.take place ++ x :: run.drop place

/-- The first run of a list, filled up to a length, and what follows it. -/
def cut (lt : α → α → Bool) (least : Nat) (xs : List α) : List α × List α :=
  let (run, rest) := splitRun lt xs
  let missing := least - run.length
  ((rest.take missing).foldl (insert lt) run, rest.drop missing)

/-! ## Merging -/

/-- A run that waits to be merged, and the power of it and the run after it. -/
structure Waiting (α : Type) where
  run : List α
  power : Nat

/-- The runs that wait, the last one first, and the patience of merges. -/
structure Stack (α : Type) where
  waiting : List (Waiting α)
  patience : Nat

/--
The number of halvings of a length that separate two places, given as twice the places. Without fuel
no more are counted, but two places differ in no more halvings than the length has digits.
-/
def separation (n : Nat) : Nat → Nat → Nat → Nat
  | 0, _, _ => 0
  | fuel + 1, a, b =>
    if n ≤ a then separation n fuel (2 * (a - n)) (2 * (b - n)) + 1
    else if n ≤ b then 1
    else separation n fuel (2 * a) (2 * b) + 1

/-- The power of two neighbouring runs of a list of a length, by where the first starts. -/
def power (n start first second : Nat) : Nat :=
  separation n (n + 1) (2 * start + first) (2 * start + 2 * first + second)

/-- Merges two runs that wait one after the other; of powers that of the first remains. -/
def Waiting.merge (lt : α → α → Bool) (patience : Nat) (lower upper : Waiting α) :
    Waiting α × Nat :=
  let (run, patience) := Sorting.merge lt patience lower.run upper.run
  (⟨run, lower.power⟩, patience)

/-- Merges the last runs as long as the power before them is higher than a power. -/
def settle (lt : α → α → Bool) (power : Nat) (patience : Nat) : List (Waiting α) → Stack α
  | upper :: lower :: rest =>
    if power < lower.power then
      let (merged, patience) := lower.merge lt patience upper
      settle lt power patience (merged :: rest)
    else ⟨upper :: lower :: rest, patience⟩
  | waiting => ⟨waiting, patience⟩
termination_by waiting => waiting.length

/-- Adds a run of a list of length `n` to those that wait. -/
def Stack.push (lt : α → α → Bool) (n : Nat) (s : Stack α) (run : List α) : Stack α :=
  match s.waiting with
  | [] => { s with waiting := [⟨run, 0⟩] }
  | last :: before =>
    let start := before.foldl (fun n w => n + w.run.length) 0
    let p := power n start last.run.length run.length
    let s := settle lt p s.patience (last :: before)
    match s.waiting with
    | [] => { s with waiting := [⟨run, 0⟩] }
    | top :: rest => { s with waiting := ⟨run, 0⟩ :: { top with power := p } :: rest }

/-- Merges all runs that wait; of the last three the shorter outer one joins the middle one. -/
def collapse (lt : α → α → Bool) (patience : Nat) : List (Waiting α) → List α
  | [] => []
  | [w] => w.run
  | [upper, lower] => (lower.merge lt patience upper).1.run
  | top :: middle :: bottom :: rest =>
    if bottom.run.length < top.run.length then
      let (merged, patience) := bottom.merge lt patience middle
      collapse lt patience (top :: merged :: rest)
    else
      let (merged, patience) := middle.merge lt patience top
      collapse lt patience (merged :: bottom :: rest)
termination_by waiting => waiting.length

/-! ## Sorting -/

/-- Cuts a list into runs and adds them to those that wait. Each run takes an item at least. -/
def pushRuns (lt : α → α → Bool) (n : Nat) : Nat → Stack α → List α → Stack α
  | _, s, [] => s
  | 0, s, x :: xs => s.push lt n (x :: xs)
  | fuel + 1, s, x :: xs =>
    let (run, rest) := cut lt (leastLength n) (x :: xs)
    pushRuns lt n fuel (s.push lt n run) rest

/-- The items of a list from the least to the greatest. -/
def sort (lt : α → α → Bool) (xs : List α) : List α :=
  let s := pushRuns lt xs.length xs.length ⟨[], worthwhile⟩ xs
  collapse lt s.patience s.waiting

/-! ## Sorting only rearranges -/

theorem splitChain_append (p : α → α → Bool) (last : α) (xs : List α) :
    (splitChain p last xs).1 ++ (splitChain p last xs).2 = xs := by
  induction xs generalizing last with
  | nil => rfl
  | cons x xs ih =>
    simp only [splitChain]
    split
    · simp [ih]
    · rfl

theorem splitRun_perm (lt : α → α → Bool) (xs : List α) :
    ((splitRun lt xs).1 ++ (splitRun lt xs).2).Perm xs := by
  cases xs with
  | nil => exact .refl _
  | cons x xs =>
    have e := splitChain_append (fun a b => lt b a == xs.head?.any (lt · x)) x xs
    simp only [splitRun]
    split
    · refine ((List.reverse_perm _).append_right _).trans (.of_eq ?_)
      rw [List.cons_append, e]
    · rw [List.cons_append, e]

theorem insert_perm (lt : α → α → Bool) (run : List α) (x : α) :
    (insert lt run x).Perm (x :: run) := by
  simp only [insert]
  exact List.perm_middle.trans (.of_eq (by rw [List.take_append_drop]))

theorem foldl_insert_perm (lt : α → α → Bool) (xs run : List α) :
    (xs.foldl (insert lt) run).Perm (run ++ xs) := by
  induction xs generalizing run with
  | nil => simp
  | cons x xs ih =>
    exact (ih _).trans (((insert_perm lt run x).append_right xs).trans List.perm_middle.symm)

theorem cut_perm (lt : α → α → Bool) (least : Nat) (xs : List α) :
    ((cut lt least xs).1 ++ (cut lt least xs).2).Perm xs := by
  simp only [cut]
  refine ((foldl_insert_perm ..).append_right _).trans ?_
  rw [List.append_assoc, List.take_append_drop]
  exact splitRun_perm lt xs

/-- The items of the runs that wait. -/
def pending (waiting : List (Waiting α)) : List α := waiting.flatMap Waiting.run

theorem pending_merge_perm (lt : α → α → Bool) (patience : Nat) (lower upper : Waiting α)
    (rest : List (Waiting α)) :
    (pending ((lower.merge lt patience upper).1 :: rest)).Perm
      (pending (upper :: lower :: rest)) := by
  simp only [pending, List.flatMap_cons, ← List.append_assoc]
  exact ((merge_perm ..).trans List.perm_append_comm).append_right _

theorem settle_perm (lt : α → α → Bool) (power patience : Nat) (waiting : List (Waiting α)) :
    (pending (settle lt power patience waiting).waiting).Perm (pending waiting) := by
  fun_induction settle lt power patience waiting with
  | case1 patience upper lower rest _ merged rest' h ih =>
    exact ih.trans (by simpa [h] using pending_merge_perm lt patience lower upper rest)
  | case2 => exact .refl _
  | case3 => exact .refl _

theorem push_perm (lt : α → α → Bool) (n : Nat) (s : Stack α) (run : List α) :
    (pending (s.push lt n run).waiting).Perm (run ++ pending s.waiting) := by
  simp only [Stack.push]
  split
  · next h => simp [h, pending]
  · next last before h =>
    generalize power n _ _ _ = p
    have e := settle_perm lt p s.patience (last :: before)
    generalize settle lt p s.patience (last :: before) = s' at e ⊢
    rw [h]
    split
    · next h' =>
      rw [h'] at e
      simpa [pending] using e.append_left run
    · next top rest h' =>
      rw [h'] at e
      simpa [pending] using e.append_left run

theorem collapse_perm (lt : α → α → Bool) (patience : Nat) (waiting : List (Waiting α)) :
    (collapse lt patience waiting).Perm (pending waiting) := by
  fun_induction collapse lt patience waiting with
  | case1 => exact .refl _
  | case2 w => simp [pending]
  | case3 patience upper lower =>
    simpa [pending] using pending_merge_perm lt patience lower upper []
  | case4 patience top middle bottom rest _ merged rest' h ih =>
    refine ih.trans ?_
    have := pending_merge_perm lt patience bottom middle rest
    rw [h] at this
    simpa [pending] using this.append_left top.run
  | case5 patience top middle bottom rest _ merged rest' h ih =>
    exact ih.trans (by simpa [h] using pending_merge_perm lt patience middle top (bottom :: rest))

theorem pushRuns_perm (lt : α → α → Bool) (n fuel : Nat) (s : Stack α) (xs : List α) :
    (pending (pushRuns lt n fuel s xs).waiting).Perm (xs ++ pending s.waiting) := by
  fun_induction pushRuns lt n fuel s xs with
  | case1 => exact .refl _
  | case2 => exact push_perm ..
  | case3 fuel s x xs run rest h ih =>
    refine ih.trans ((push_perm ..).append_left _ |>.trans ?_)
    have e := cut_perm lt (leastLength n) (x :: xs)
    rw [h] at e
    rw [← List.append_assoc]
    exact (List.perm_append_comm.trans e).append_right _

theorem sort_perm (lt : α → α → Bool) (xs : List α) : (sort lt xs).Perm xs := by
  simp only [sort]
  exact (collapse_perm ..).trans ((pushRuns_perm ..).trans (by simp [pending]))

end PropertyGraph.Sorting
