import PropertyGraph.Proofs.Components
import PropertyGraph.Proofs.Guarded
import PropertyGraph.Proofs.Ranking

/-!
# The laws of PageRank

Over fractions, the scores of the nodes of a reachable graph add up to one, and none is less than
what starting again anywhere gives; they are computed without a division by zero, and listed from
the highest to the lowest, equal ones in the order of their nodes: `pageRank_isLawful`. What is put
together here are the laws of walks, of guarded numbers and of rankings.
-/

namespace PropertyGraph

namespace Analytics

variable {g : Snapshot} {weight : Relationship → ℚ} {types : List String} {rules : WalkRules ℚ}

/-- The ranks of the nodes of a graph after a number of steps. -/
def ranksAfter {α : Type} [Add α] [Sub α] [Mul α] [Div α] [NatCast α] [OfNat α 0] [OfNat α 1]
    [BEq α] (g : Snapshot) (weight : Relationship → α) (types : List String) (damping : α)
    (steps : Nat) : Vector α g.nodeIds.length :=
  ((Walk.ofLinks (linksOf weight g.nodeIds (ofTypes types g.relationships))).step damping)^[steps]
    (Walk.start g.nodeIds.length)

/-- What can be said of the scores of the nodes of a graph. -/
structure IsLawful (g : Snapshot) (weight : Relationship → ℚ) (types : List String)
    (rules : WalkRules ℚ) : Prop where
  /-- No number is divided by zero, at any step, -/
  steps_guarded : ∀ steps, ranksAfter g (fun r => Guarded.ofRat (weight r)) types
      (Guarded.ofRat rules.damping) steps
    = (ranksAfter g weight types rules.damping steps).map Guarded.ofRat
  /-- nor on the way to any score. -/
  guarded : ∀ top, pageRank rules.guarded (fun r => Guarded.ofRat (weight r)) g types top
    = (pageRank rules weight g types top).map NodeScore.guarded
  /-- The ranks add up to one after any number of steps. -/
  total : ∀ steps,
    ∑ v : Fin g.nodeIds.length, (ranksAfter g weight types rules.damping steps)[v] = 1
  /-- With a chance for a damping, no rank is below what starting again anywhere gives. -/
  floor : 0 ≤ rules.damping → rules.damping ≤ 1 → ∀ (steps : Nat) (v : Fin g.nodeIds.length),
    (1 - rules.damping) / g.nodeIds.length ≤ (ranksAfter g weight types rules.damping steps)[v]
  /-- The scores are the ranks after some number of steps, which is allowed. -/
  scored : ∃ steps ≤ rules.steps, (pageRank rules weight g types none).Perm
    ((List.finRange g.nodeIds.length).map fun v =>
      ⟨g.nodeIds[v], (ranksAfter g weight types rules.damping steps)[v]⟩)
  /-- So the scores add up to one, -/
  scores_total : ((pageRank rules weight g types none).map NodeScore.score).sum = 1
  /-- and with a chance for a damping, none is below what starting again anywhere gives. -/
  scores_floor : 0 ≤ rules.damping → rules.damping ≤ 1 → ∀ s ∈ pageRank rules weight g types none,
    (1 - rules.damping) / g.nodeIds.length ≤ s.score
  /-- Every node is listed. -/
  listed : ((pageRank rules weight g types none).map NodeScore.node).Perm g.nodeIds
  /-- No node is listed twice. -/
  nodup : ((pageRank rules weight g types none).map NodeScore.node).Nodup
  /-- The higher score goes first, and of two nodes with equal scores the earlier one. -/
  ranked : (pageRank rules weight g types none).Pairwise fun a b =>
    b.score < a.score
      ∨ a.score = b.score ∧ g.nodeIds.idxOf a.node < g.nodeIds.idxOf b.node

section Listing

variable {α : Type} [Add α] [Sub α] [Mul α] [Div α] [Neg α] [NatCast α] [OfNat α 0] [OfNat α 1]
  [BEq α] [LT α] [DecidableLT α]

theorem map_node_scores (rules : WalkRules α) (weight : Relationship → α) (ids : List String)
    (rs : List Relationship) : (scores rules weight ids rs).map NodeScore.node = ids := by
  unfold scores
  dsimp only
  rw [List.map_map]
  exact List.map_get_finRange ids

/-- Whatever the numbers are, and whatever they are computed from, each node is listed once. -/
theorem map_node_pageRank (rules : WalkRules α) (weight : Relationship → α) (g : Snapshot)
    (types : List String) :
    ((pageRank rules weight g types none).map NodeScore.node).Perm g.nodeIds := by
  have hperm : (pageRank rules weight g types none).Perm
      (scores rules weight g.nodeIds (ofTypes types g.relationships)) := rank_perm _ _
  have hnode := hperm.map NodeScore.node
  rwa [map_node_scores] at hnode

end Listing

/-- The scores are listed in the order of the nodes before they are ranked. -/
theorem scores_pairwise {ids : List String} (hnodup : ids.Nodup) (rs : List Relationship) :
    (scores rules weight ids rs).Pairwise fun a b => ids.idxOf a.node < ids.idxOf b.node := by
  unfold scores
  dsimp only
  rw [List.pairwise_map]
  refine (List.pairwise_lt_finRange ids.length).imp fun {i j} hij => ?_
  simpa [hnodup.idxOf_getElem] using hij

/-- **The laws of PageRank** hold where there are nodes, each with an id of its own. -/
theorem isLawful_of_nodup (hnodes : g.nodeIds ≠ []) (hnodup : g.nodeIds.Nodup)
    (hpos : ∀ r ∈ g.relationships, 0 < weight r) (types : List String) (rules : WalkRules ℚ) :
    IsLawful g weight types rules := by
  have hn : g.nodeIds.length ≠ 0 := mt List.eq_nil_of_length_eq_zero hnodes
  have hpos' : ∀ r ∈ ofTypes types g.relationships, 0 < weight r :=
    fun r hr => hpos r (mem_ofTypes.mp hr).1
  have hlinks : ∀ l ∈ linksOf weight g.nodeIds (ofTypes types g.relationships), 0 < l.weight :=
    weight_pos_of_mem_linksOf hpos'
  have hperm : (pageRank rules weight g types none).Perm
      (scores rules weight g.nodeIds (ofTypes types g.relationships)) := rank_perm _ _
  have hlisted := map_node_pageRank rules weight g types
  have htotal := Walk.sum_steps hn (linksOf weight g.nodeIds (ofTypes types g.relationships))
    rules.damping
  have hfloor := fun hd hd' => Walk.le_steps hlinks (d := rules.damping) hd hd'
  obtain ⟨steps, hsteps, heq⟩ := Walk.iterate_eq_steps
    (Walk.ofLinks (linksOf weight g.nodeIds (ofTypes types g.relationships))) rules.damping
    rules.tolerance rules.steps (Walk.start g.nodeIds.length)
  have hscored : (pageRank rules weight g types none).Perm
      ((List.finRange g.nodeIds.length).map fun v =>
        ⟨g.nodeIds[v], (ranksAfter g weight types rules.damping steps)[v]⟩) := by
    unfold ranksAfter
    rw [← heq]
    exact hperm
  constructor
  case steps_guarded =>
    intro steps
    unfold ranksAfter
    rw [linksOf_guarded, Walk.steps_guarded hn hlinks]
  case guarded =>
    intro top
    unfold pageRank
    rw [scores_guarded hnodes hpos', rank_guarded, takeTop_map]
  case total => exact htotal
  case floor => exact hfloor
  case scored => exact ⟨steps, hsteps, hscored⟩
  case scores_total =>
    rw [(hscored.map NodeScore.score).sum_eq, List.map_map, ← htotal steps, Fin.sum_univ_def]
    rfl
  case scores_floor =>
    intro hd hd' s hmem
    obtain ⟨v, -, rfl⟩ := List.mem_map.mp (hscored.mem_iff.mp hmem)
    exact hfloor hd hd' steps v
  case listed => exact hlisted
  case nodup => exact hlisted.nodup_iff.mpr hnodup
  case ranked => exact rank_pairwise NodeScore.score _ (scores_pairwise hnodup _)

end Analytics

namespace Store

open Analytics

/--
**PageRank conserves rank.** For the nodes of a reachable graph that has any, along relationships of
any types and with any weights that are positive, and whatever the damping, the tolerance and the
number of steps: no number is divided by zero, the ranks add up to one after every step, none falls
below what starting again anywhere gives, and each node is listed once, from the highest score to
the lowest.
-/
theorem pageRank_isLawful {s : Store} (hs : Reachable s) (hnodes : s.nodes.values ≠ [])
    {weight : Relationship → ℚ} (hpos : ∀ r ∈ s.relationships.values, 0 < weight r)
    (types : List String) (rules : WalkRules ℚ) : IsLawful s.snapshot weight types rules := by
  have hids : s.snapshot.nodeIds = s.nodes.keys := (sound_of_reachable hs).nodeIds_eq
  refine isLawful_of_nodup (mt List.map_eq_nil_iff.mp hnodes) ?_ hpos types rules
  rw [hids]
  exact s.nodes.nodup_keys

/-- Among its nodes are one with a self-loop and, for these types, one that nothing leaves. -/
theorem pageRank_isLawful_sample :
    IsLawful (sample ⟨true, true⟩).snapshot (fun _ => 1) ["T"] ⟨17 / 20, 100, 1 / 1000000⟩ :=
  pageRank_isLawful (Reachable.sample ⟨true, true⟩) (by decide) (fun _ _ => one_pos) ["T"] _

end Store

end PropertyGraph
