import Mathlib.Algebra.Order.Archimedean.Basic
import Mathlib.Algebra.Order.BigOperators.Ring.Finset
import PropertyGraph.Proofs.PageRank

/-!
# Walks settle down

A step with damping is a full step, mixed with starting again anywhere. A full step gives away what
it is given and adds nothing, so of two lists of ranks it makes no two that are further apart; what
lies between them is itself moved along the links. With damping they come closer by its factor:
`distance_step_le`. Each step of a walk therefore changes the ranks by at most the damping times
what the step before changed, and below one the walk ends by the tolerance after a number of steps
that is known beforehand: `pageRank_contracts`.
-/

namespace PropertyGraph.Analytics

open Finset

namespace Walk

variable {n : Nat} {links : List (Link ℚ n)} {d : ℚ} {x y : Vector ℚ n}

/-! ## Distances -/

theorem size_eq (a : ℚ) : size a = |a| := by
  unfold size
  split
  · rename_i ha
    exact (abs_of_neg ha).symm
  · rename_i ha
    exact (abs_of_nonneg (not_lt.mp ha)).symm

theorem distance_eq (x y : Vector ℚ n) : distance x y = ∑ v : Fin n, |x.get v - y.get v| := by
  show sum ((List.finRange n).map fun v => size (x.get v - y.get v)) = _
  rw [sum_eq, Fin.sum_univ_def]
  exact congrArg List.sum (List.map_congr_left fun v _ => size_eq _)

/-- How far apart two lists of ranks are at each place. -/
def gaps (x y : Vector ℚ n) : Vector ℚ n := Vector.ofFn fun v => |x.get v - y.get v|

theorem get_gaps (x y : Vector ℚ n) (v : Fin n) : (gaps x y).get v = |x.get v - y.get v| := by
  show (gaps x y)[v] = _
  unfold gaps
  simp

/-! ## A full step -/

theorem abs_sum_sub_sum_le {α : Type} {f g h : α → ℚ} (items : List α)
    (hle : ∀ a ∈ items, |f a - g a| ≤ h a) :
    |(items.map f).sum - (items.map g).sum| ≤ (items.map h).sum := by
  induction items with
  | nil => simp
  | cons a items ih =>
    have hfirst := hle a List.mem_cons_self
    have hrest := ih fun b hb => hle b (List.mem_cons_of_mem _ hb)
    rw [List.map_cons, List.map_cons, List.map_cons, List.sum_cons, List.sum_cons, List.sum_cons,
      add_sub_add_comm]
    exact (abs_add_le _ _).trans (add_le_add hfirst hrest)

/-- A link carries what lies between two ranks of its source. -/
theorem abs_share_sub_le (hpos : ∀ l ∈ links, 0 < l.weight) (x y : Vector ℚ n) {l : Link ℚ n}
    (hl : l ∈ links) :
    |(ofLinks links).share x l - (ofLinks links).share y l|
      ≤ (ofLinks links).share (gaps x y) l := by
  have hweight := hpos l hl
  have hout := outWeight_source_pos hpos hl
  have hfactor : 0 ≤ l.weight / (ofLinks links).outWeight.get l.source := by positivity
  have hshare : ∀ z : Vector ℚ n, (ofLinks links).share z l
      = z.get l.source * (l.weight / (ofLinks links).outWeight.get l.source) := by
    intro z
    rw [share_eq, mul_div_assoc]
  rw [hshare, hshare, hshare, get_gaps, ← sub_mul, abs_mul, abs_of_nonneg hfactor]

theorem abs_dangling_sub_le (w : Walk ℚ n) (x y : Vector ℚ n) :
    |w.dangling x - w.dangling y| ≤ w.dangling (gaps x y) := by
  rw [dangling_eq, dangling_eq, dangling_eq, ← sum_sub_distrib]
  refine (abs_sum_le_sum_abs _ _).trans (sum_le_sum fun u _ => ?_)
  split
  · rw [get_gaps]
  · rw [sub_zero, abs_zero]

/-- What lies between two lists of ranks is moved along by a full step as ranks are. -/
theorem abs_step_one_sub_le (hpos : ∀ l ∈ links, 0 < l.weight) (x y : Vector ℚ n) (v : Fin n) :
    |((ofLinks links).step 1 x).get v - ((ofLinks links).step 1 y).get v|
      ≤ ((ofLinks links).step 1 (gaps x y)).get v := by
  have hstep : ∀ z : Vector ℚ n, ((ofLinks links).step 1 z).get v
      = (ofLinks links).dangling z / n
        + (((ofLinks links).incoming.get v).map ((ofLinks links).share z)).sum := by
    intro z
    rw [step_eq]
    ring
  have hdangling : |(ofLinks links).dangling x / n - (ofLinks links).dangling y / n|
      ≤ (ofLinks links).dangling (gaps x y) / n := by
    rw [← sub_div, abs_div, Nat.abs_cast]
    exact div_le_div_of_nonneg_right (abs_dangling_sub_le _ x y) (Nat.cast_nonneg n)
  have hlinks := abs_sum_sub_sum_le ((ofLinks links).incoming.get v)
    fun l hl => abs_share_sub_le hpos x y
      (List.mem_of_mem_filter (incoming_ofLinks links v ▸ hl))
  rw [hstep, hstep, hstep, add_sub_add_comm]
  exact (abs_add_le _ _).trans (add_le_add hdangling hlinks)

/-- A full step takes two lists of ranks no further apart. -/
theorem distance_step_one_le (hn : n ≠ 0) (hpos : ∀ l ∈ links, 0 < l.weight) (x y : Vector ℚ n) :
    distance ((ofLinks links).step 1 x) ((ofLinks links).step 1 y) ≤ distance x y := by
  calc distance ((ofLinks links).step 1 x) ((ofLinks links).step 1 y)
      ≤ ∑ v : Fin n, ((ofLinks links).step 1 (gaps x y)).get v := by
        rw [distance_eq]
        exact sum_le_sum fun v _ => abs_step_one_sub_le hpos x y v
    _ = ∑ v : Fin n, (gaps x y).get v := by
        rw [sum_step hn]
        ring
    _ = distance x y := by
        rw [distance_eq]
        exact sum_congr rfl fun v _ => get_gaps x y v

/-! ## Damping -/

/-- A step follows the links with the chance of the damping, and else starts again anywhere. -/
theorem step_eq_mix (w : Walk ℚ n) (d : ℚ) (x : Vector ℚ n) (v : Fin n) :
    (w.step d x).get v = (1 - d) / n + d * (w.step 1 x).get v := by
  rw [step_eq, step_eq]
  ring

/-- **A step brings two lists of ranks closer by the factor of the damping.** -/
theorem distance_step_le (hn : n ≠ 0) (hpos : ∀ l ∈ links, 0 < l.weight) (hd : 0 ≤ d)
    (x y : Vector ℚ n) :
    distance ((ofLinks links).step d x) ((ofLinks links).step d y) ≤ d * distance x y := by
  have hmix : distance ((ofLinks links).step d x) ((ofLinks links).step d y)
      = d * distance ((ofLinks links).step 1 x) ((ofLinks links).step 1 y) := by
    rw [distance_eq, distance_eq, mul_sum]
    refine sum_congr rfl fun v _ => ?_
    rw [step_eq_mix _ d x, step_eq_mix _ d y, add_sub_add_left_eq_sub, ← mul_sub, abs_mul,
      abs_of_nonneg hd]
  rw [hmix]
  exact mul_le_mul_of_nonneg_left (distance_step_one_le hn hpos x y) hd

/-- The first step changes the ranks by at most twice the damping. -/
theorem distance_step_start_le (hn : n ≠ 0) (hpos : ∀ l ∈ links, 0 < l.weight) (hd : 0 ≤ d) :
    distance ((ofLinks links).step d (start n)) (start n) ≤ 2 * d := by
  have hstart : ∀ v : Fin n, 0 ≤ (start n : Vector ℚ n).get v := by
    intro v
    rw [get_start]
    positivity
  have hfull : ∀ v : Fin n, 0 ≤ ((ofLinks links).step 1 (start n)).get v := by
    intro v
    have hfloor := le_step hpos zero_le_one hstart v
    rwa [sub_self, zero_div] at hfloor
  -- both lists add up to one, so they cannot be more than two apart
  have hmove : ∀ v : Fin n,
      |((ofLinks links).step d (start n)).get v - (start n : Vector ℚ n).get v|
        ≤ d * (((ofLinks links).step 1 (start n)).get v + (start n : Vector ℚ n).get v) := by
    intro v
    have heq : ((ofLinks links).step d (start n)).get v - (start n : Vector ℚ n).get v
        = d * (((ofLinks links).step 1 (start n)).get v - (start n : Vector ℚ n).get v) := by
      rw [step_eq_mix, get_start]
      ring
    rw [heq, abs_mul, abs_of_nonneg hd]
    refine mul_le_mul_of_nonneg_left ?_ hd
    exact (abs_sub _ _).trans_eq (by rw [abs_of_nonneg (hfull v), abs_of_nonneg (hstart v)])
  calc distance ((ofLinks links).step d (start n)) (start n)
      ≤ ∑ v : Fin n,
          d * (((ofLinks links).step 1 (start n)).get v + (start n : Vector ℚ n).get v) := by
        rw [distance_eq]
        exact sum_le_sum fun v _ => hmove v
    _ = d * (∑ v : Fin n, ((ofLinks links).step 1 (start n)).get v
          + ∑ v : Fin n, (start n : Vector ℚ n).get v) := by
        rw [← mul_sum, sum_add_distrib]
    _ = 2 * d := by
        rw [sum_step hn, sum_start hn]
        ring

/-! ## Walks step by step -/

/-- How far the ranks move in the step that comes after a number of steps. -/
def change (w : Walk ℚ n) (d : ℚ) (k : Nat) : ℚ :=
  distance ((w.step d)^[k + 1] (start n)) ((w.step d)^[k] (start n))

theorem change_succ_le (hn : n ≠ 0) (hpos : ∀ l ∈ links, 0 < l.weight) (hd : 0 ≤ d) (k : Nat) :
    (ofLinks links).change d (k + 1) ≤ d * (ofLinks links).change d k := by
  unfold change
  rw [Function.iterate_succ_apply' _ (k + 1), Function.iterate_succ_apply' _ k]
  exact distance_step_le hn hpos hd _ _

/-- The changes fall as fast as the powers of the damping. -/
theorem change_le_pow (hn : n ≠ 0) (hpos : ∀ l ∈ links, 0 < l.weight) (hd : 0 ≤ d) (k : Nat) :
    (ofLinks links).change d k ≤ 2 * d ^ (k + 1) := by
  induction k with
  | zero =>
    rw [zero_add, pow_one]
    exact distance_step_start_le hn hpos hd
  | succ k ih =>
    calc (ofLinks links).change d (k + 1)
        ≤ d * (ofLinks links).change d k := change_succ_le hn hpos hd k
      _ ≤ d * (2 * d ^ (k + 1)) := mul_le_mul_of_nonneg_left ih hd
      _ = 2 * d ^ (k + 1 + 1) := by ring

/-- A walk halts with the first step that changes the ranks by less than the tolerance. -/
structure HaltsAfter (w : Walk ℚ n) (d tolerance : ℚ) (k : Nat) : Prop where
  /-- The step after these does, -/
  below : w.change d k < tolerance
  /-- and none before it. -/
  first : ∀ j < k, tolerance ≤ w.change d j

theorem exists_haltsAfter {w : Walk ℚ n} {tolerance : ℚ} {t : Nat}
    (h : w.change d t < tolerance) : ∃ k ≤ t, w.HaltsAfter d tolerance k := by
  have hsome : ∃ k, w.change d k < tolerance := ⟨t, h⟩
  refine ⟨Nat.find hsome, Nat.find_min' hsome h, Nat.find_spec hsome, fun j hj => ?_⟩
  exact not_lt.mp (Nat.find_min hsome hj)

/-- If as many steps are allowed, a walk ends where it halts. -/
theorem HaltsAfter.iterate_eq {w : Walk ℚ n} {tolerance : ℚ} {k steps : Nat}
    (h : w.HaltsAfter d tolerance k) (hsteps : k < steps) :
    w.iterate d tolerance steps (start n) = (w.step d)^[k + 1] (start n) := by
  -- of a walk that is on its way, with as many steps left as it takes
  have hrest : ∀ steps j, j ≤ k → k - j < steps →
      w.iterate d tolerance steps ((w.step d)^[j] (start n)) = (w.step d)^[k + 1] (start n) := by
    intro steps
    induction steps with
    | zero => exact fun j _ hlt => absurd hlt (Nat.not_lt_zero _)
    | succ steps ih =>
      intro j hj hlt
      have hstep : w.iterate d tolerance (steps + 1) ((w.step d)^[j] (start n))
          = if w.change d j < tolerance then (w.step d)^[j + 1] (start n)
            else w.iterate d tolerance steps ((w.step d)^[j + 1] (start n)) := by
        unfold change
        rw [Function.iterate_succ_apply' (w.step d) j]
        rfl
      rw [hstep]
      rcases Nat.eq_or_lt_of_le hj with rfl | hj
      · exact if_pos h.below
      · rw [if_neg (not_lt.mpr (h.first j hj))]
        exact ih (j + 1) hj (by omega)
  exact hrest steps 0 (Nat.zero_le k) hsteps

end Walk

/-! ## Scores -/

section

variable (g : Snapshot) (weight : Relationship → ℚ) (types : List String) (d : ℚ)

/-- How far the ranks of the nodes of a graph move in the step after a number of steps. -/
def changeAfter (k : Nat) : ℚ :=
  Walk.distance (ranksAfter g weight types d (k + 1)) (ranksAfter g weight types d k)

/-- The nodes of a graph listed by the ranks that they have after a number of steps. -/
def rankedAfter (k : Nat) (top : Option Int) : List (NodeScore ℚ) :=
  takeTop top (rank NodeScore.score ((List.finRange g.nodeIds.length).map fun v =>
    ⟨g.nodeIds.get v, (ranksAfter g weight types d k).get v⟩))

/-- How the ranks of the nodes of a graph settle down. -/
structure Contracts : Prop where
  /-- The first step changes them by at most twice the damping, -/
  first : changeAfter g weight types d 0 ≤ 2 * d
  /-- each later one by at most the damping times what the one before changed, -/
  later : ∀ k, changeAfter g weight types d (k + 1) ≤ d * changeAfter g weight types d k
  /-- so the changes fall as fast as the powers of the damping, -/
  falling : ∀ k, changeAfter g weight types d k ≤ 2 * d ^ (k + 1)
  /-- which below one fall under any tolerance. -/
  vanishing : d < 1 → ∀ tolerance > 0, ∃ t, 2 * d ^ (t + 1) < tolerance
  /-- Where they have, the steps end by the tolerance, there or before, if as many are allowed. -/
  halting : ∀ tolerance t, 2 * d ^ (t + 1) < tolerance → ∃ k ≤ t,
    changeAfter g weight types d k < tolerance
      ∧ (∀ j < k, tolerance ≤ changeAfter g weight types d j)
      ∧ ∀ steps > t, ∀ top, pageRank ⟨d, steps, tolerance⟩ weight g types top
        = rankedAfter g weight types d (k + 1) top
  /-- How many more are allowed does not matter. -/
  settled : ∀ tolerance t, 2 * d ^ (t + 1) < tolerance → ∀ steps > t, ∀ steps' > t, ∀ top,
    pageRank ⟨d, steps, tolerance⟩ weight g types top
      = pageRank ⟨d, steps', tolerance⟩ weight g types top

end

/--
**PageRank contracts.** For the nodes of any graph that has some, along relationships of any types
and with any weights that are positive, and with a chance for a damping, each step changes the ranks
by at most the damping times what the step before changed. So a damping below one makes the steps
end by the tolerance, after a number of them that depends on these two alone.
-/
theorem pageRank_contracts {g : Snapshot} {weight : Relationship → ℚ} {d : ℚ}
    (hnodes : g.nodes ≠ []) (hpos : ∀ r ∈ g.relationships, 0 < weight r) (types : List String)
    (hd : 0 ≤ d) : Contracts g weight types d := by
  have hn : g.nodeIds.length ≠ 0 := by
    rw [Snapshot.nodeIds, List.length_map]
    exact mt List.eq_nil_of_length_eq_zero hnodes
  have hlinks : ∀ l ∈ linksOf weight g.nodeIds (ofTypes types g.relationships), 0 < l.weight :=
    weight_pos_of_mem_linksOf fun r hr => hpos r (mem_ofTypes.mp hr).1
  have hfalling : ∀ k, changeAfter g weight types d k ≤ 2 * d ^ (k + 1) :=
    Walk.change_le_pow hn hlinks hd
  have hhalting : ∀ tolerance t, 2 * d ^ (t + 1) < tolerance → ∃ k ≤ t,
      changeAfter g weight types d k < tolerance
        ∧ (∀ j < k, tolerance ≤ changeAfter g weight types d j)
        ∧ ∀ steps > t, ∀ top, pageRank ⟨d, steps, tolerance⟩ weight g types top
          = rankedAfter g weight types d (k + 1) top := by
    intro tolerance t ht
    obtain ⟨k, hk, hhalts⟩ := Walk.exists_haltsAfter (d := d)
      (w := Walk.ofLinks (linksOf weight g.nodeIds (ofTypes types g.relationships)))
      ((hfalling t).trans_lt ht)
    refine ⟨k, hk, hhalts.below, hhalts.first, fun steps hsteps top => ?_⟩
    unfold pageRank scores
    dsimp only
    rw [hhalts.iterate_eq (hk.trans_lt hsteps)]
    rfl
  constructor
  case first => exact Walk.distance_step_start_le hn hlinks hd
  case later => exact Walk.change_succ_le hn hlinks hd
  case falling => exact hfalling
  case vanishing =>
    intro hlt tolerance htol
    obtain ⟨t, ht⟩ := exists_pow_lt_of_lt_one (half_pos htol) hlt
    refine ⟨t, ?_⟩
    have hnext : d ^ (t + 1) ≤ d ^ t := pow_le_pow_of_le_one hd hlt.le (Nat.le_succ t)
    linarith
  case halting => exact hhalting
  case settled =>
    intro tolerance t ht steps hsteps steps' hsteps' top
    obtain ⟨k, -, -, -, heq⟩ := hhalting tolerance t ht
    rw [heq steps hsteps top, heq steps' hsteps' top]

/-- Two nodes that are joined both ways, and for these types one that nothing leaves. -/
theorem pageRank_contracts_sample :
    Contracts (Store.sample ⟨true, true⟩).snapshot (fun _ => 1) ["U"] (17 / 20) :=
  pageRank_contracts (by decide) (fun _ _ => one_pos) ["U"] (by norm_num)

end PropertyGraph.Analytics
