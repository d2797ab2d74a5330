import PropertyGraph.Proofs.Walk

/-!
# Walks without a division by zero

A guarded number is a fraction, or nothing once something has been divided by zero; whatever is
computed from nothing is nothing. A walk can be run over guarded numbers as it can over any others.
`scores_guarded` says that such a run gives the fractions that a run over fractions gives, so that
no number that a score depends on has been divided by zero.

There are three divisors. A graph that has nodes has a number of them that is not zero, which is two
of them; the third is what leaves the source of a link, and weights are positive.
-/

namespace PropertyGraph.Analytics

/-- A fraction, or nothing once something has been divided by zero. -/
structure Guarded where
  value? : Option ℚ
deriving DecidableEq

namespace Guarded

def ofRat (x : ℚ) : Guarded := ⟨some x⟩

/-- Computes with two fractions, if both are there. -/
def lift (f : ℚ → ℚ → Option ℚ) (a b : Guarded) : Guarded :=
  ⟨a.value?.bind fun x => b.value?.bind fun y => f x y⟩

instance : Add Guarded := ⟨lift fun x y => some (x + y)⟩

instance : Sub Guarded := ⟨lift fun x y => some (x - y)⟩

instance : Mul Guarded := ⟨lift fun x y => some (x * y)⟩

/-- Nothing comes of a division by zero. -/
instance : Div Guarded := ⟨lift fun x y => if y = 0 then none else some (x / y)⟩

instance : Neg Guarded := ⟨fun a => ⟨a.value?.map fun x => -x⟩⟩

instance : NatCast Guarded := ⟨fun k => ofRat k⟩

instance : OfNat Guarded 0 := ⟨ofRat 0⟩

instance : OfNat Guarded 1 := ⟨ofRat 1⟩

/-- Whether two fractions are there of which the first is less. -/
def isLess (a b : Guarded) : Bool :=
  match a.value?, b.value? with
  | some x, some y => x < y
  | _, _ => false

instance : LT Guarded := ⟨fun a b => a.isLess b = true⟩

instance : DecidableLT Guarded := fun a b => inferInstanceAs (Decidable (a.isLess b = true))

variable (x y : ℚ)

@[simp] theorem add_ofRat : ofRat x + ofRat y = ofRat (x + y) := rfl

@[simp] theorem sub_ofRat : ofRat x - ofRat y = ofRat (x - y) := rfl

@[simp] theorem mul_ofRat : ofRat x * ofRat y = ofRat (x * y) := rfl

@[simp] theorem neg_ofRat : -ofRat x = ofRat (-x) := rfl

@[simp] theorem ofRat_zero : (0 : Guarded) = ofRat 0 := rfl

@[simp] theorem ofRat_one : (1 : Guarded) = ofRat 1 := rfl

@[simp] theorem ofRat_natCast (k : Nat) : (k : Guarded) = ofRat k := rfl

theorem div_ofRat {x y : ℚ} (hy : y ≠ 0) : ofRat x / ofRat y = ofRat (x / y) := by
  show Guarded.mk (if y = 0 then none else some (x / y)) = _
  rw [if_neg hy]
  rfl

@[simp] theorem ofRat_lt_ofRat : ofRat x < ofRat y ↔ x < y := decide_eq_true_iff

@[simp] theorem ofRat_inj : ofRat x = ofRat y ↔ x = y := by
  unfold ofRat
  simp

end Guarded

open Guarded

theorem sum_ofRat (xs : List ℚ) : sum (xs.map ofRat) = ofRat (sum xs) := by
  have hfold : ∀ a : ℚ, (xs.map ofRat).foldl (· + ·) (ofRat a) = ofRat (xs.foldl (· + ·) a) := by
    induction xs with
    | nil => exact fun _ => rfl
    | cons x xs ih => exact fun a => ih (a + x)
  exact hfold 0

/-- The link with its weight guarded. -/
def Link.guarded {n : Nat} (l : Link ℚ n) : Link Guarded n := ⟨l.source, l.target, ofRat l.weight⟩

namespace Walk

variable {n : Nat} {links : List (Link ℚ n)}

theorem outWeight_guarded (links : List (Link ℚ n)) (u : Fin n) :
    (ofLinks (links.map Link.guarded)).outWeight.get u
      = ofRat ((ofLinks links).outWeight.get u) := by
  have hweights : ((links.map Link.guarded).filter (·.source == u)).map Link.weight
      = ((links.filter (·.source == u)).map Link.weight).map ofRat := by
    rw [List.filter_map, List.map_map, List.map_map]
    rfl
  show (ofLinks (links.map Link.guarded)).outWeight[u] = ofRat (ofLinks links).outWeight[u]
  unfold ofLinks
  simp only [Fin.getElem_fin, Vector.getElem_ofFn, Fin.eta]
  rw [hweights, sum_ofRat]

theorem incoming_guarded (links : List (Link ℚ n)) (v : Fin n) :
    (ofLinks (links.map Link.guarded)).incoming.get v
      = ((ofLinks links).incoming.get v).map Link.guarded := by
  show (ofLinks (links.map Link.guarded)).incoming[v] = (ofLinks links).incoming[v].map _
  unfold ofLinks
  simp only [Fin.getElem_fin, Vector.getElem_ofFn, Fin.eta]
  rw [List.filter_map]
  rfl

theorem start_guarded (hn : n ≠ 0) :
    (start n : Vector Guarded n) = (start n : Vector ℚ n).map ofRat := by
  have hn' : (n : ℚ) ≠ 0 := Nat.cast_ne_zero.mpr hn
  unfold start
  ext i hi
  simp only [Vector.getElem_ofFn, Vector.getElem_map]
  exact div_ofRat hn'

theorem get_map {α β : Type} (f : α → β) (xs : Vector α n) (v : Fin n) :
    (xs.map f).get v = f (xs.get v) := by
  show (xs.map f)[v] = f xs[v]
  simp

theorem share_guarded (hpos : ∀ l ∈ links, 0 < l.weight) (ranks : Vector ℚ n) {l : Link ℚ n}
    (hl : l ∈ links) :
    (ofLinks (links.map Link.guarded)).share (ranks.map ofRat) l.guarded
      = ofRat ((ofLinks links).share ranks l) := by
  rw [share_eq, share_eq]
  show (ranks.map ofRat).get l.source * ofRat l.weight
    / (ofLinks (links.map Link.guarded)).outWeight.get l.source = _
  rw [get_map, outWeight_guarded, mul_ofRat]
  exact div_ofRat (outWeight_source_pos hpos hl).ne'

theorem dangling_guarded (links : List (Link ℚ n)) (ranks : Vector ℚ n) :
    (ofLinks (links.map Link.guarded)).dangling (ranks.map ofRat)
      = ofRat ((ofLinks links).dangling ranks) := by
  unfold dangling
  rw [← sum_ofRat, List.map_map]
  have hzero : ∀ u : Fin n, ((ofLinks (links.map Link.guarded)).outWeight.get u == 0)
      = ((ofLinks links).outWeight.get u == 0) := by
    intro u
    rw [outWeight_guarded, ofRat_zero, Bool.eq_iff_iff, beq_iff_eq, beq_iff_eq, ofRat_inj]
  show sum (((List.finRange n).filter fun u =>
      (ofLinks (links.map Link.guarded)).outWeight.get u == 0).map _) = _
  rw [List.filter_congr fun u _ => hzero u]
  congr 1
  exact List.map_congr_left fun u _ => get_map ofRat ranks u

/-- A step over guarded numbers is the step over fractions. -/
theorem step_guarded (hn : n ≠ 0) (hpos : ∀ l ∈ links, 0 < l.weight) (d : ℚ)
    (ranks : Vector ℚ n) :
    (ofLinks (links.map Link.guarded)).step (ofRat d) (ranks.map ofRat)
      = ((ofLinks links).step d ranks).map ofRat := by
  have hn' : (n : ℚ) ≠ 0 := Nat.cast_ne_zero.mpr hn
  unfold step
  rw [dangling_guarded]
  ext i hi
  have hshares : (ofLinks (links.map Link.guarded)).incoming[i].map
        ((ofLinks (links.map Link.guarded)).share (ranks.map ofRat))
      = ((ofLinks links).incoming[i].map ((ofLinks links).share ranks)).map ofRat := by
    have hin : (ofLinks (links.map Link.guarded)).incoming[i] = _ :=
      incoming_guarded links ⟨i, hi⟩
    rw [hin, List.map_map, incoming_ofLinks]
    have hin' : (ofLinks links).incoming[i] = _ := incoming_ofLinks links ⟨i, hi⟩
    rw [hin', List.map_map]
    refine List.map_congr_left fun l hl => ?_
    exact share_guarded hpos ranks (List.mem_of_mem_filter hl)
  simp only [Vector.getElem_ofFn, Vector.getElem_map, Fin.getElem_fin]
  rw [hshares, sum_ofRat]
  simp only [ofRat_one, ofRat_natCast, sub_ofRat, mul_ofRat, div_ofRat hn', add_ofRat]

theorem steps_guarded (hn : n ≠ 0) (hpos : ∀ l ∈ links, 0 < l.weight) (d : ℚ) (k : Nat) :
    ((ofLinks (links.map Link.guarded)).step (ofRat d))^[k] (start n)
      = (((ofLinks links).step d)^[k] (start n)).map ofRat := by
  induction k with
  | zero => exact start_guarded hn
  | succ k ih =>
    rw [Function.iterate_succ_apply', Function.iterate_succ_apply', ih]
    exact step_guarded hn hpos d _

theorem distance_guarded (new old : Vector ℚ n) :
    distance (new.map ofRat) (old.map ofRat) = ofRat (distance new old) := by
  have hsize : ∀ x, size (ofRat x) = ofRat (size x) := by
    intro x
    unfold size
    rw [ofRat_zero]
    by_cases hx : x < 0
    · rw [if_pos hx, if_pos ((ofRat_lt_ofRat x 0).mpr hx), neg_ofRat]
    · rw [if_neg hx, if_neg (mt (ofRat_lt_ofRat x 0).mp hx)]
  unfold distance
  rw [← sum_ofRat, List.map_map]
  congr 1
  refine List.map_congr_left fun v _ => ?_
  simp [hsize]

theorem iterate_guarded (hn : n ≠ 0) (hpos : ∀ l ∈ links, 0 < l.weight) (d tolerance : ℚ)
    (steps : Nat) (ranks : Vector ℚ n) :
    (ofLinks (links.map Link.guarded)).iterate (ofRat d) (ofRat tolerance) steps (ranks.map ofRat)
      = ((ofLinks links).iterate d tolerance steps ranks).map ofRat := by
  induction steps generalizing ranks with
  | zero => rfl
  | succ steps ih =>
    unfold iterate
    dsimp only
    rw [step_guarded hn hpos, distance_guarded]
    by_cases hstop : distance ((ofLinks links).step d ranks) ranks < tolerance
    · rw [if_pos hstop, if_pos ((ofRat_lt_ofRat _ _).mpr hstop)]
    · rw [if_neg hstop, if_neg (mt (ofRat_lt_ofRat _ _).mp hstop)]
      exact ih _

end Walk

/-! ## Scores -/

def WalkRules.guarded (rules : WalkRules ℚ) : WalkRules Guarded :=
  ⟨ofRat rules.damping, rules.steps, ofRat rules.tolerance⟩

def NodeScore.guarded (s : NodeScore ℚ) : NodeScore Guarded := ⟨s.node, ofRat s.score⟩

theorem linksOf_guarded (weight : Relationship → ℚ) (ids : List String)
    (rs : List Relationship) :
    linksOf (fun r => ofRat (weight r)) ids rs = (linksOf weight ids rs).map Link.guarded := by
  unfold linksOf
  rw [List.map_filterMap]
  refine List.filterMap_congr fun r _ => ?_
  cases placeOf? ids r.source with
  | none => rfl
  | some u =>
    cases placeOf? ids r.target with
    | none => rfl
    | some v => rfl

theorem weight_pos_of_mem_linksOf {weight : Relationship → ℚ} {ids : List String}
    {rs : List Relationship} (hpos : ∀ r ∈ rs, 0 < weight r) :
    ∀ l ∈ linksOf weight ids rs, 0 < l.weight := by
  intro l hl
  obtain ⟨r, hr, hlink⟩ := List.mem_filterMap.mp hl
  obtain ⟨u, -, hlink⟩ := Option.bind_eq_some_iff.mp hlink
  obtain ⟨v, -, hlink⟩ := Option.bind_eq_some_iff.mp hlink
  obtain rfl := Option.some.inj hlink
  exact hpos r hr

theorem scores_guarded {weight : Relationship → ℚ} {ids : List String} {rs : List Relationship}
    (hids : ids ≠ []) (hpos : ∀ r ∈ rs, 0 < weight r) (rules : WalkRules ℚ) :
    scores rules.guarded (fun r => ofRat (weight r)) ids rs
      = (scores rules weight ids rs).map NodeScore.guarded := by
  have hn : ids.length ≠ 0 := mt List.eq_nil_of_length_eq_zero hids
  unfold scores WalkRules.guarded
  dsimp only
  rw [linksOf_guarded, Walk.start_guarded hn,
    Walk.iterate_guarded hn (weight_pos_of_mem_linksOf hpos), List.map_map]
  refine List.map_congr_left fun i _ => ?_
  show NodeScore.mk _ _ = NodeScore.mk _ _
  simp

theorem rank_guarded (ss : List (NodeScore ℚ)) :
    rank NodeScore.score (ss.map NodeScore.guarded)
      = (rank NodeScore.score ss).map NodeScore.guarded := by
  rw [rank_eq_mergeSort, rank_eq_mergeSort]
  refine (List.map_mergeSort fun a _ b _ => ?_).symm
  rw [Bool.eq_iff_iff]
  simp [NodeScore.guarded]

theorem takeTop_map {α β : Type} (f : α → β) (top : Option Int) (entries : List α) :
    takeTop top (entries.map f) = (takeTop top entries).map f := by
  unfold takeTop
  cases top with
  | none => rfl
  | some k =>
    dsimp only
    rw [List.length_map, ← List.map_take, ← List.map_take, ← apply_ite, ← apply_ite]

end PropertyGraph.Analytics
