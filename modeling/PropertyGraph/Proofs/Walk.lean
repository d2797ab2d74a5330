import Mathlib.Algebra.BigOperators.Fin
import Mathlib.Algebra.Order.BigOperators.Group.List
import Mathlib.Algebra.Order.Field.Rat
import Mathlib.Tactic.FieldSimp
import Mathlib.Tactic.Linarith
import Mathlib.Tactic.Positivity
import Mathlib.Tactic.Ring
import PropertyGraph.Analytics.PageRank

/-!
# Walks conserve rank

Over fractions, one step of a walk keeps the sum of the ranks at one. What the links carry is
grouped by their targets, and what leaves a node by the sources. Added up over all nodes, both
groupings are the sum over all links: `sum_filter_eq`. A node that something leaves gives away all
of its rank, for the weights of its links add up to what leaves it, and the rank of every other node
is dangling.

For the sum it does not matter that the weights are positive. For the division it does: something
leaves the source of every link.
-/

namespace PropertyGraph.Analytics

open Finset

theorem sum_eq (xs : List ℚ) : sum xs = xs.sum := List.sum_eq_foldl.symm

/-- The items of a list, grouped by a place that each of them has. -/
theorem sum_filter_eq {α : Type} {n : Nat} (place : α → Fin n) (f : α → ℚ) (items : List α) :
    ∑ v : Fin n, ((items.filter fun a => place a == v).map f).sum = (items.map f).sum := by
  induction items with
  | nil => simp
  | cons a items ih =>
    have hcons : ∀ v, (((a :: items).filter fun b => place b == v).map f).sum
        = (if place a = v then f a else 0)
          + ((items.filter fun b => place b == v).map f).sum := by
      intro v
      by_cases hv : place a = v
      · rw [List.filter_cons_of_pos (by simpa using hv), List.map_cons, List.sum_cons, if_pos hv]
      · rw [List.filter_cons_of_neg (by simpa using hv), if_neg hv, zero_add]
    rw [sum_congr rfl fun v _ => hcons v, sum_add_distrib, ih, List.map_cons, List.sum_cons]
    simp

theorem sum_map_pos {α : Type} {f : α → ℚ} {items : List α} (hpos : ∀ a ∈ items, 0 < f a)
    (hne : items ≠ []) : 0 < (items.map f).sum := by
  refine List.sum_pos _ ?_ (mt List.map_eq_nil_iff.mp hne)
  intro x hx
  obtain ⟨a, ha, rfl⟩ := List.mem_map.mp hx
  exact hpos a ha

namespace Walk

variable {n : Nat} {links : List (Link ℚ n)}

/-! ## What leaves a node -/

theorem share_eq {α : Type} [Mul α] [Div α] (w : Walk α n) (ranks : Vector α n) (l : Link α n) :
    w.share ranks l = ranks.get l.source * l.weight / w.outWeight.get l.source := rfl

theorem outWeight_ofLinks (links : List (Link ℚ n)) (u : Fin n) :
    (ofLinks links).outWeight.get u = ((links.filter (·.source == u)).map Link.weight).sum := by
  show (ofLinks links).outWeight[u] = _
  unfold ofLinks
  simp [sum_eq]

theorem incoming_ofLinks (links : List (Link ℚ n)) (v : Fin n) :
    (ofLinks links).incoming.get v = links.filter (·.target == v) := by
  show (ofLinks links).incoming[v] = _
  unfold ofLinks
  simp

/-- Something leaves the source of every link. -/
theorem outWeight_source_pos (hpos : ∀ l ∈ links, 0 < l.weight) {l : Link ℚ n} (hl : l ∈ links) :
    0 < (ofLinks links).outWeight.get l.source := by
  have hmem : l ∈ links.filter (·.source == l.source) :=
    List.mem_filter.mpr ⟨hl, beq_self_eq_true _⟩
  rw [outWeight_ofLinks]
  exact sum_map_pos (fun k hk => hpos k (List.mem_of_mem_filter hk)) (List.ne_nil_of_mem hmem)

/-- Links from one place carry of its rank what their weights are of all that leaves it. -/
theorem sum_share_of_source (w : Walk ℚ n) (ranks : Vector ℚ n) {u : Fin n}
    {items : List (Link ℚ n)} (h : ∀ l ∈ items, l.source = u) :
    (items.map (w.share ranks)).sum
      = ranks.get u * ((items.map Link.weight).sum / w.outWeight.get u) := by
  have hshare : items.map (w.share ranks)
      = (items.map Link.weight).map fun x => x * (ranks.get u / w.outWeight.get u) := by
    rw [List.map_map]
    refine List.map_congr_left fun l hl => ?_
    rw [Function.comp_apply, share_eq, h l hl]
    ring
  rw [hshare, List.sum_map_mul_right, List.map_id']
  ring

/-- The links from a node carry its whole rank, if anything leaves it. -/
theorem sum_share_source (links : List (Link ℚ n)) (ranks : Vector ℚ n) (u : Fin n) :
    ((links.filter (·.source == u)).map ((ofLinks links).share ranks)).sum
      = if (ofLinks links).outWeight.get u = 0 then 0 else ranks.get u := by
  have hsource : ∀ l ∈ links.filter (·.source == u), l.source = u := by
    intro l hl
    simpa using (List.mem_filter.mp hl).2
  rw [sum_share_of_source (ofLinks links) ranks hsource, ← outWeight_ofLinks]
  split
  · rename_i hzero
    rw [hzero, div_zero, mul_zero]
  · rename_i hne
    rw [div_self hne, mul_one]

theorem dangling_eq (w : Walk ℚ n) (ranks : Vector ℚ n) :
    w.dangling ranks = ∑ u : Fin n, if w.outWeight.get u = 0 then ranks.get u else 0 := by
  show sum (((List.finRange n).filter fun u => w.outWeight.get u == 0).map ranks.get) = _
  rw [sum_eq, Fin.sum_univ_def]
  generalize List.finRange n = us
  induction us with
  | nil => rfl
  | cons u us ih =>
    rw [List.map_cons, List.sum_cons, ← ih]
    by_cases hu : w.outWeight.get u = 0
    · rw [List.filter_cons_of_pos (by simpa using hu), List.map_cons, List.sum_cons, if_pos hu]
    · rw [List.filter_cons_of_neg (by simpa using hu), if_neg hu, zero_add]

/-- What the links carry and what is dangling are all ranks. -/
theorem sum_share_add_dangling (links : List (Link ℚ n)) (ranks : Vector ℚ n) :
    ∑ v : Fin n, (((ofLinks links).incoming.get v).map ((ofLinks links).share ranks)).sum
      + (ofLinks links).dangling ranks = ∑ u : Fin n, ranks.get u := by
  have htargets : ∑ v : Fin n,
        (((ofLinks links).incoming.get v).map ((ofLinks links).share ranks)).sum
      = (links.map ((ofLinks links).share ranks)).sum := by
    rw [sum_congr rfl fun v _ => by rw [incoming_ofLinks]]
    exact sum_filter_eq Link.target _ links
  have hsources := sum_filter_eq Link.source ((ofLinks links).share ranks) links
  rw [htargets, ← hsources, sum_congr rfl fun u _ => sum_share_source links ranks u, dangling_eq,
    ← sum_add_distrib]
  refine sum_congr rfl fun u _ => ?_
  split
  · rw [zero_add]
  · rw [add_zero]

/-! ## Steps -/

theorem step_eq (w : Walk ℚ n) (d : ℚ) (ranks : Vector ℚ n) (v : Fin n) :
    (w.step d ranks).get v = (1 - d) / n + d * w.dangling ranks / n
      + d * ((w.incoming.get v).map (w.share ranks)).sum := by
  show (w.step d ranks)[v] = _ + d * (w.incoming[v].map _).sum
  unfold step
  simp [sum_eq]

theorem sum_step (hn : n ≠ 0) (links : List (Link ℚ n)) (d : ℚ) (ranks : Vector ℚ n) :
    ∑ v : Fin n, ((ofLinks links).step d ranks).get v = 1 - d + d * ∑ v : Fin n, ranks.get v := by
  have hn' : (n : ℚ) ≠ 0 := Nat.cast_ne_zero.mpr hn
  rw [sum_congr rfl fun v _ => step_eq _ d ranks v, sum_add_distrib, sum_const, card_univ,
    Fintype.card_fin, nsmul_eq_mul, ← mul_sum, ← sum_share_add_dangling links ranks]
  field_simp
  ring

theorem get_start (v : Fin n) : (start n : Vector ℚ n).get v = 1 / n := by
  show (Vector.ofFn fun _ => 1 / (n : ℚ))[v] = _
  simp

theorem sum_start (hn : n ≠ 0) : ∑ v : Fin n, (start n : Vector ℚ n).get v = 1 := by
  have hn' : (n : ℚ) ≠ 0 := Nat.cast_ne_zero.mpr hn
  rw [sum_congr rfl fun v _ => get_start v]
  simp [hn']

/-- **The ranks add up to one after any number of steps.** -/
theorem sum_steps (hn : n ≠ 0) (links : List (Link ℚ n)) (d : ℚ) (k : Nat) :
    ∑ v : Fin n, (((ofLinks links).step d)^[k] (start n)).get v = 1 := by
  induction k with
  | zero => exact sum_start hn
  | succ k ih =>
    rw [Function.iterate_succ_apply', sum_step hn links, ih]
    ring

theorem le_step (hpos : ∀ l ∈ links, 0 < l.weight) {d : ℚ} (hd : 0 ≤ d) {ranks : Vector ℚ n}
    (hranks : ∀ v : Fin n, 0 ≤ ranks.get v) (v : Fin n) :
    (1 - d) / n ≤ ((ofLinks links).step d ranks).get v := by
  have hshares : 0 ≤ (((ofLinks links).incoming.get v).map ((ofLinks links).share ranks)).sum := by
    refine List.sum_nonneg fun x hx => ?_
    obtain ⟨l, hl, rfl⟩ := List.mem_map.mp hx
    rw [incoming_ofLinks] at hl
    have hmem := List.mem_of_mem_filter hl
    have hweight := hpos l hmem
    have hout := outWeight_source_pos hpos hmem
    have hrank := hranks l.source
    rw [share_eq]
    positivity
  have hdangling : 0 ≤ (ofLinks links).dangling ranks := by
    rw [dangling_eq]
    refine sum_nonneg fun u _ => ?_
    split
    · exact hranks u
    · exact le_rfl
  rw [step_eq]
  have hbase : 0 ≤ d * (ofLinks links).dangling ranks / n := by positivity
  have hlinks := mul_nonneg hd hshares
  linarith

/-- **No rank is ever below what starting again anywhere gives.** -/
theorem le_steps (hpos : ∀ l ∈ links, 0 < l.weight) {d : ℚ} (hd : 0 ≤ d) (hd' : d ≤ 1) (k : Nat)
    (v : Fin n) : (1 - d) / n ≤ (((ofLinks links).step d)^[k] (start n)).get v := by
  have hfloor : 0 ≤ (1 - d) / n := div_nonneg (by linarith) (Nat.cast_nonneg n)
  induction k generalizing v with
  | zero =>
    show _ ≤ (start n : Vector ℚ n).get v
    rw [get_start]
    exact div_le_div_of_nonneg_right (by linarith) (Nat.cast_nonneg n)
  | succ k ih =>
    rw [Function.iterate_succ_apply']
    exact le_step hpos hd (fun u => hfloor.trans (ih u)) v

/-- However it ends, the iteration has made some number of steps, and at most as many as allowed. -/
theorem iterate_eq_steps {α : Type} [Add α] [Sub α] [Mul α] [Div α] [Neg α] [NatCast α] [OfNat α 0]
    [OfNat α 1] [LT α] [DecidableLT α] [BEq α] (w : Walk α n) (d tolerance : α) (steps : Nat)
    (ranks : Vector α n) :
    ∃ k ≤ steps, w.iterate d tolerance steps ranks = (w.step d)^[k] ranks := by
  induction steps generalizing ranks with
  | zero => exact ⟨0, le_rfl, rfl⟩
  | succ steps ih =>
    unfold iterate
    dsimp only
    split
    · exact ⟨1, by omega, rfl⟩
    · obtain ⟨k, hk, heq⟩ := ih (w.step d ranks)
      exact ⟨k + 1, by omega, heq⟩

end Walk

end PropertyGraph.Analytics
