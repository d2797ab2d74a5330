import PropertyGraph.Proofs.PageRank

/-!
# Walks depend on shares

In a step of a walk a place gets from another the part of its rank that is the share of the weight
between the two in all that leaves the other. Links between the same two places count together,
whatever their order and number: `Walk.step_congr`. So two walks in which nothing leaves the
same places, and in which all shares are the same, go through the same ranks.

For relationships a place is that of an id, and a share is what the weights of the relationships
from one node to another make up of those from the first node: `SameShares`. Permuting
relationships, merging parallel ones and scaling all that leave a node are three ways of keeping all
shares.
-/

namespace PropertyGraph.Analytics

open Finset

/-! ## Links -/

namespace Walk

variable {n : Nat} {links links' : List (Link ℚ n)}

/-- The weight of the links from one place to another. -/
def flow (links : List (Link ℚ n)) (u v : Fin n) : ℚ :=
  (((links.filter (·.target == v)).filter (·.source == u)).map Link.weight).sum

/-- What a place gets in a step, grouped by where it comes from. -/
theorem sum_incoming (links : List (Link ℚ n)) (ranks : Vector ℚ n) (v : Fin n) :
    (((ofLinks links).incoming.get v).map ((ofLinks links).share ranks)).sum
      = ∑ u : Fin n, ranks.get u * (flow links u v / (ofLinks links).outWeight.get u) := by
  rw [incoming_ofLinks, ← sum_filter_eq Link.source]
  refine sum_congr rfl fun u _ => ?_
  have hsource : ∀ l ∈ (links.filter (·.target == v)).filter (·.source == u), l.source = u := by
    intro l hl
    simpa using (List.mem_filter.mp hl).2
  exact sum_share_of_source (ofLinks links) ranks hsource

/-- **A step depends on the shares alone**, and on the places that nothing leaves. -/
theorem step_congr
    (hzero : ∀ u, (ofLinks links).outWeight.get u = 0 ↔ (ofLinks links').outWeight.get u = 0)
    (hshare : ∀ u v, flow links u v / (ofLinks links).outWeight.get u
      = flow links' u v / (ofLinks links').outWeight.get u) (d : ℚ) (ranks : Vector ℚ n) :
    (ofLinks links).step d ranks = (ofLinks links').step d ranks := by
  have hdangling : (ofLinks links).dangling ranks = (ofLinks links').dangling ranks := by
    rw [dangling_eq, dangling_eq]
    exact sum_congr rfl fun u _ => by simp only [hzero u]
  have hget : ∀ v, ((ofLinks links).step d ranks).get v
      = ((ofLinks links').step d ranks).get v := by
    intro v
    rw [step_eq, step_eq, hdangling, sum_incoming, sum_incoming]
    congr 2
    exact sum_congr rfl fun u _ => by rw [hshare u v]
  exact Vector.ext fun i hi => hget ⟨i, hi⟩

theorem iterate_congr {w w' : Walk ℚ n} {d : ℚ} (hstep : ∀ ranks, w.step d ranks = w'.step d ranks)
    (tolerance : ℚ) (steps : Nat) (ranks : Vector ℚ n) :
    w.iterate d tolerance steps ranks = w'.iterate d tolerance steps ranks := by
  induction steps generalizing ranks with
  | zero => rfl
  | succ steps ih =>
    unfold iterate
    dsimp only
    rw [hstep, ih]

end Walk

/-! ## Relationships -/

section Relationships

variable {weight weight' : Relationship → ℚ} {ids : List String} {rs rs' : List Relationship}

/-- The weight of the relationships with certain ends, in all. -/
def weightOn (weight : Relationship → ℚ) (rs : List Relationship)
    (ends : String → String → Bool) : ℚ :=
  ((rs.filter fun r => ends r.source r.target).map weight).sum

/-- The weight of the relationships that leave a node. -/
def weightFrom (weight : Relationship → ℚ) (rs : List Relationship) (u : String) : ℚ :=
  weightOn weight rs fun source _ => source == u

/-- The weight of the relationships from one node to another. -/
def weightBetween (weight : Relationship → ℚ) (rs : List Relationship) (u v : String) : ℚ :=
  weightOn weight rs fun source target => source == u && target == v

/-- Relationships with positive weights among some nodes. -/
structure Over (ids : List String) (weight : Relationship → ℚ) (rs : List Relationship) :
    Prop where
  /-- Their sources are among the nodes, -/
  source : ∀ r ∈ rs, r.source ∈ ids
  /-- and so are their targets. -/
  target : ∀ r ∈ rs, r.target ∈ ids
  /-- Their weights are positive. -/
  positive : ∀ r ∈ rs, 0 < weight r

/-- Two lists of relationships that share out the rank of every node in the same way. -/
structure SameShares (ids : List String) (weight weight' : Relationship → ℚ)
    (rs rs' : List Relationship) : Prop where
  /-- Relationships leave a node in both lists or in neither. -/
  leaving : ∀ u ∈ ids, (∃ r ∈ rs, r.source = u) ↔ ∃ r ∈ rs', r.source = u
  /-- The weight from one node to another is the same part of all that leaves the first. -/
  shares : ∀ u ∈ ids, ∀ v ∈ ids, weightBetween weight rs u v / weightFrom weight rs u
    = weightBetween weight' rs' u v / weightFrom weight' rs' u

theorem Over.subset (h : Over ids weight rs) (hsub : rs' ⊆ rs) : Over ids weight rs' :=
  ⟨fun r hr => h.source r (hsub hr), fun r hr => h.target r (hsub hr),
    fun r hr => h.positive r (hsub hr)⟩

theorem over_cons {r : Relationship} : Over ids weight (r :: rs)
    ↔ (r.source ∈ ids ∧ r.target ∈ ids ∧ 0 < weight r) ∧ Over ids weight rs := by
  constructor
  · intro h
    have hr := List.mem_cons_self (a := r) (l := rs)
    exact ⟨⟨h.source r hr, h.target r hr, h.positive r hr⟩, h.subset (List.subset_cons_self r rs)⟩
  · rintro ⟨⟨hsource, htarget, hpos⟩, h⟩
    exact ⟨List.forall_mem_cons.mpr ⟨hsource, h.source⟩,
      List.forall_mem_cons.mpr ⟨htarget, h.target⟩, List.forall_mem_cons.mpr ⟨hpos, h.positive⟩⟩

theorem weightOn_cons (weight : Relationship → ℚ) (r : Relationship) (rs : List Relationship)
    (ends : String → String → Bool) : weightOn weight (r :: rs) ends
      = (if ends r.source r.target then weight r else 0) + weightOn weight rs ends := by
  unfold weightOn
  rw [List.filter_cons]
  split
  · rw [List.map_cons, List.sum_cons]
  · rw [zero_add]

/-- Ends that are looked for only if something holds. -/
theorem weightOn_and (weight : Relationship → ℚ) (rs : List Relationship) (b : Bool)
    (ends : String → String → Bool) : (weightOn weight rs fun x y => b && ends x y)
      = if b then weightOn weight rs ends else 0 := by
  cases b with
  | true => rfl
  | false =>
    unfold weightOn
    rw [List.filter_eq_nil_iff.mpr fun _ _ => by simp]
    rfl

/-- Nothing leaves a node if and only if no relationship does. -/
theorem weightFrom_eq_zero_iff (hpos : ∀ r ∈ rs, 0 < weight r) (u : String) :
    weightFrom weight rs u = 0 ↔ ¬∃ r ∈ rs, r.source = u := by
  constructor
  · rintro hzero ⟨r, hr, rfl⟩
    have hmem : r ∈ rs.filter fun q => q.source == r.source :=
      List.mem_filter.mpr ⟨hr, beq_self_eq_true _⟩
    have hsum : 0 < weightFrom weight rs r.source :=
      sum_map_pos (fun q hq => hpos q (List.mem_of_mem_filter hq)) (List.ne_nil_of_mem hmem)
    exact hsum.ne' hzero
  · intro hnone
    unfold weightFrom weightOn
    rw [List.filter_eq_nil_iff.mpr fun r hr => by simpa using fun h => hnone ⟨r, hr, h⟩]
    rfl

/-! ## Places -/

theorem get_placeOf? {x : String} {u : Fin ids.length} (h : placeOf? ids x = some u) :
    ids.get u = x := by
  have hfound := List.find?_some h
  simpa using hfound

theorem exists_placeOf? {x : String} (h : x ∈ ids) : ∃ u, placeOf? ids x = some u := by
  obtain ⟨i, hi, rfl⟩ := List.getElem_of_mem h
  refine Option.isSome_iff_exists.mp (List.find?_isSome.mpr ⟨⟨i, hi⟩, ?_, ?_⟩)
  · simp
  · simp

/-- Whether a place is the one where its id is looked up: if ids repeat, not every place is. -/
def isPlace (ids : List String) (u : Fin ids.length) : Bool := placeOf? ids (ids.get u) == some u

/-- An id is looked up at a place if it is the id there, and that is where this id is looked up. -/
theorem beq_of_placeOf? {x : String} {w : Fin ids.length} (h : placeOf? ids x = some w)
    (u : Fin ids.length) : (w == u) = (isPlace ids u && x == ids.get u) := by
  obtain rfl := get_placeOf? h
  unfold isPlace
  rw [Bool.eq_iff_iff, Bool.and_eq_true, beq_iff_eq, beq_iff_eq, beq_iff_eq]
  constructor
  · rintro rfl
    exact ⟨h, rfl⟩
  · rintro ⟨hu, hx⟩
    rw [← hx, h] at hu
    exact Option.some.inj hu

/-- A relationship between two of the ids is a link between their places. -/
theorem linksOf_cons {α : Type} (weight : Relationship → α) {r : Relationship}
    {u v : Fin ids.length} (hu : placeOf? ids r.source = some u)
    (hv : placeOf? ids r.target = some v) (rs : List Relationship) :
    linksOf weight ids (r :: rs) = ⟨u, v, weight r⟩ :: linksOf weight ids rs := by
  unfold linksOf
  rw [List.filterMap_cons, hu, hv]
  rfl

/-- Links with certain ends have the weights of the relationships that they come from. -/
theorem sum_linksOf (h : Over ids weight rs) (places : Fin ids.length → Fin ids.length → Bool)
    (ends : String → String → Bool)
    (hends : ∀ x y u v, placeOf? ids x = some u → placeOf? ids y = some v → places u v = ends x y) :
    (((linksOf weight ids rs).filter fun l => places l.source l.target).map Link.weight).sum
      = weightOn weight rs ends := by
  induction rs with
  | nil => rfl
  | cons r rs ih =>
    obtain ⟨⟨hsource, htarget, -⟩, hrs⟩ := over_cons.mp h
    obtain ⟨u, hu⟩ := exists_placeOf? hsource
    obtain ⟨v, hv⟩ := exists_placeOf? htarget
    have hsame : places u v = ends r.source r.target := hends r.source r.target u v hu hv
    rw [linksOf_cons weight hu hv, List.filter_cons, weightOn_cons, hsame, ← ih hrs]
    split
    · rw [List.map_cons, List.sum_cons]
    · rw [zero_add]

/-- What leaves a place is what leaves its node. -/
theorem outWeight_linksOf (h : Over ids weight rs) (u : Fin ids.length) :
    (Walk.ofLinks (linksOf weight ids rs)).outWeight.get u
      = if isPlace ids u then weightFrom weight rs (ids.get u) else 0 := by
  rw [Walk.outWeight_ofLinks]
  unfold weightFrom
  rw [← weightOn_and]
  exact sum_linksOf h (fun source _ => source == u) _ fun _ _ _ _ hx _ => beq_of_placeOf? hx u

/-- What goes from place to place is what goes from node to node. -/
theorem flow_linksOf (h : Over ids weight rs) (u v : Fin ids.length) :
    Walk.flow (linksOf weight ids rs) u v
      = if isPlace ids u && isPlace ids v then weightBetween weight rs (ids.get u) (ids.get v)
        else 0 := by
  unfold Walk.flow weightBetween
  rw [← weightOn_and, List.filter_filter]
  refine sum_linksOf h (fun source target => source == u && target == v) _ ?_
  intro x y u' v' hx hy
  rw [beq_of_placeOf? hx u, beq_of_placeOf? hy v]
  ac_rfl

/-- **Scores depend on the shares alone.** -/
theorem scores_congr (h : Over ids weight rs) (h' : Over ids weight' rs')
    (hsame : SameShares ids weight weight' rs rs') (rules : WalkRules ℚ) :
    scores rules weight ids rs = scores rules weight' ids rs' := by
  have hmem : ∀ u : Fin ids.length, ids.get u ∈ ids := List.get_mem ids
  have hzero : ∀ u, (Walk.ofLinks (linksOf weight ids rs)).outWeight.get u = 0
      ↔ (Walk.ofLinks (linksOf weight' ids rs')).outWeight.get u = 0 := by
    intro u
    rw [outWeight_linksOf h, outWeight_linksOf h']
    split
    · rw [weightFrom_eq_zero_iff h.positive, weightFrom_eq_zero_iff h'.positive,
        hsame.leaving _ (hmem u)]
    · rfl
  have hshare : ∀ u v, Walk.flow (linksOf weight ids rs) u v
        / (Walk.ofLinks (linksOf weight ids rs)).outWeight.get u
      = Walk.flow (linksOf weight' ids rs') u v
        / (Walk.ofLinks (linksOf weight' ids rs')).outWeight.get u := by
    intro u v
    rw [flow_linksOf h, flow_linksOf h', outWeight_linksOf h, outWeight_linksOf h']
    by_cases hplaces : (isPlace ids u && isPlace ids v) = true
    · have hu : isPlace ids u = true := (Bool.and_eq_true_iff.mp hplaces).1
      rw [if_pos hplaces, if_pos hplaces, if_pos hu, if_pos hu]
      exact hsame.shares _ (hmem u) _ (hmem v)
    · rw [if_neg hplaces, if_neg hplaces, zero_div, zero_div]
  unfold scores
  dsimp only
  rw [Walk.iterate_congr (Walk.step_congr hzero hshare rules.damping)]

/-! ## Ways of keeping all shares -/

/-- A relationship with the same ends, and with a weight scaled by a factor for its source. -/
structure IsScaled (weight weight' : Relationship → ℚ) (factor : String → ℚ)
    (r r' : Relationship) : Prop where
  source : r'.source = r.source
  target : r'.target = r.target
  weight : weight' r' = factor r.source * weight r

/-- A relationship in place of a group of parallel ones, with all of their weight. -/
structure IsMerged (weight weight' : Relationship → ℚ) (group : List Relationship)
    (one : Relationship) : Prop where
  nonempty : group ≠ []
  source : ∀ r ∈ group, r.source = one.source
  target : ∀ r ∈ group, r.target = one.target
  weight : weight' one = (group.map weight).sum

/-- Shares are kept where what leaves a node has one factor, whichever its target. -/
theorem sameShares_of_weightOn (h : Over ids weight rs) (h' : Over ids weight' rs')
    {factor : String → ℚ} (hfactor : ∀ u, 0 < factor u)
    (hon : ∀ u ends, (∀ x y, ends x y = true → x = u) →
      weightOn weight' rs' ends = factor u * weightOn weight rs ends) :
    SameShares ids weight weight' rs rs' := by
  have hfrom : ∀ u, weightFrom weight' rs' u = factor u * weightFrom weight rs u := by
    intro u
    exact hon u _ fun x y hx => by simpa using hx
  have hbetween : ∀ u v, weightBetween weight' rs' u v
      = factor u * weightBetween weight rs u v := by
    intro u v
    refine hon u _ fun x y hxy => ?_
    have hx := (Bool.and_eq_true_iff.mp hxy).1
    simpa using hx
  constructor
  case leaving =>
    intro u _
    rw [← not_iff_not, ← weightFrom_eq_zero_iff h.positive, ← weightFrom_eq_zero_iff h'.positive,
      hfrom, mul_eq_zero, or_iff_right (hfactor u).ne']
  case shares =>
    intro u _ v _
    rw [hfrom, hbetween, mul_div_mul_left _ _ (hfactor u).ne']

theorem Over.scaled (h : Over ids weight rs) {factor : String → ℚ} (hfactor : ∀ u, 0 < factor u)
    (hs : List.Forall₂ (IsScaled weight weight' factor) rs rs') : Over ids weight' rs' := by
  induction hs with
  | nil => exact ⟨nofun, nofun, nofun⟩
  | cons hr _ ih =>
    obtain ⟨⟨hsource, htarget, hpos⟩, hrs⟩ := over_cons.mp h
    refine over_cons.mpr ⟨⟨hr.source ▸ hsource, hr.target ▸ htarget, ?_⟩, ih hrs⟩
    rw [hr.weight]
    exact mul_pos (hfactor _) hpos

theorem weightOn_scaled {factor : String → ℚ}
    (hs : List.Forall₂ (IsScaled weight weight' factor) rs rs') {u : String}
    {ends : String → String → Bool} (hends : ∀ x y, ends x y = true → x = u) :
    weightOn weight' rs' ends = factor u * weightOn weight rs ends := by
  induction hs with
  | nil => exact (mul_zero _).symm
  | cons hr _ ih =>
    rw [weightOn_cons, weightOn_cons, ih, hr.source, hr.target, mul_add]
    congr 1
    split
    · rename_i hon
      rw [hr.weight, hends _ _ hon]
    · rw [mul_zero]

theorem weightOn_perm (weight : Relationship → ℚ) (hperm : rs.Perm rs')
    (ends : String → String → Bool) : weightOn weight rs ends = weightOn weight rs' ends :=
  ((hperm.filter _).map weight).sum_eq

theorem weightOn_append (weight : Relationship → ℚ) (rs rs' : List Relationship)
    (ends : String → String → Bool) :
    weightOn weight (rs ++ rs') ends = weightOn weight rs ends + weightOn weight rs' ends := by
  unfold weightOn
  rw [List.filter_append, List.map_append, List.sum_append]

theorem Over.merged {group rest : List Relationship} {one : Relationship}
    (h : Over ids weight (group ++ rest)) (hm : IsMerged weight weight' group one)
    (hrest : ∀ r ∈ rest, weight' r = weight r) : Over ids weight' (one :: rest) := by
  have hgroup := h.subset (List.subset_append_left group rest)
  have hothers := h.subset (List.subset_append_right group rest)
  obtain ⟨r, hr⟩ := List.exists_mem_of_ne_nil group hm.nonempty
  have hpos : 0 < weight' one := by
    rw [hm.weight]
    exact sum_map_pos hgroup.positive hm.nonempty
  refine over_cons.mpr ⟨⟨hm.source r hr ▸ hgroup.source r hr, hm.target r hr ▸ hgroup.target r hr,
    hpos⟩, hothers.source, hothers.target, ?_⟩
  intro q hq
  rw [hrest q hq]
  exact hothers.positive q hq

theorem weightOn_merged {group rest : List Relationship} {one : Relationship}
    (hm : IsMerged weight weight' group one) (hrest : ∀ r ∈ rest, weight' r = weight r)
    (ends : String → String → Bool) :
    weightOn weight' (one :: rest) ends = weightOn weight (group ++ rest) ends := by
  have hothers : weightOn weight' rest ends = weightOn weight rest ends := by
    unfold weightOn
    rw [List.map_congr_left fun r hr => hrest r (List.mem_of_mem_filter hr)]
  have hends : ∀ r ∈ group, ends r.source r.target = ends one.source one.target := by
    intro r hr
    rw [hm.source r hr, hm.target r hr]
  rw [weightOn_cons, weightOn_append, hothers, hm.weight]
  unfold weightOn
  rw [List.filter_congr hends]
  cases ends one.source one.target with
  | true => simp
  | false => simp

end Relationships

/-! ## PageRank -/

/-- Two graphs in which PageRank gives the same, whatever its rules. -/
def SamePageRank (g g' : Snapshot) (weight weight' : Relationship → ℚ)
    (types types' : List String) : Prop :=
  ∀ rules top, pageRank rules weight' g' types' top = pageRank rules weight g types top

/-- What PageRank depends on. -/
structure DependsOnShares (g : Snapshot) (weight : Relationship → ℚ) (types : List String) :
    Prop where
  /-- It is the same where the shares are, -/
  shares : ∀ {g' : Snapshot} {weight' : Relationship → ℚ} {types' : List String},
    g'.nodeIds = g.nodeIds → Over g.nodeIds weight' (ofTypes types' g'.relationships) →
    SameShares g.nodeIds weight weight' (ofTypes types g.relationships)
      (ofTypes types' g'.relationships) →
    SamePageRank g g' weight weight' types types'
  /-- so if relationships are permuted, -/
  permuted : ∀ {g' : Snapshot} {types' : List String}, g'.nodeIds = g.nodeIds →
    (ofTypes types' g'.relationships).Perm (ofTypes types g.relationships) →
    SamePageRank g g' weight weight types types'
  /-- if the weights of all that leave a node are scaled by one positive factor, -/
  scaled : ∀ {g' : Snapshot} {weight' : Relationship → ℚ} {types' : List String}
    {factor : String → ℚ}, g'.nodeIds = g.nodeIds → (∀ u, 0 < factor u) →
    List.Forall₂ (IsScaled weight weight' factor) (ofTypes types g.relationships)
      (ofTypes types' g'.relationships) →
    SamePageRank g g' weight weight' types types'
  /-- and if parallel relationships are merged into one with the sum of their weights. -/
  merged : ∀ {g' : Snapshot} {weight' : Relationship → ℚ} {types' : List String}
    {group rest : List Relationship} {one : Relationship}, g'.nodeIds = g.nodeIds →
    (ofTypes types g.relationships).Perm (group ++ rest) →
    (ofTypes types' g'.relationships).Perm (one :: rest) → IsMerged weight weight' group one →
    (∀ r ∈ rest, weight' r = weight r) → SamePageRank g g' weight weight' types types'
  /-- Where no relationship has a weight, their own weights are like no weights. -/
  modes : (∀ r ∈ ofTypes types g.relationships, r.weight = none) → ∀ value : Float → ℚ,
    SamePageRank g g (fun r => value (weightIn false r)) (fun r => value (weightIn true r)) types
      types

variable {g g' : Snapshot} {weight weight' : Relationship → ℚ} {types types' : List String}

theorem samePageRank_of_shares (hids : g'.nodeIds = g.nodeIds)
    (h : Over g.nodeIds weight (ofTypes types g.relationships))
    (h' : Over g.nodeIds weight' (ofTypes types' g'.relationships))
    (hsame : SameShares g.nodeIds weight weight' (ofTypes types g.relationships)
      (ofTypes types' g'.relationships)) :
    SamePageRank g g' weight weight' types types' := by
  intro rules top
  unfold pageRank
  rw [hids, scores_congr h h' hsame]

/-- PageRank reads the weights of the relationships that it follows, and no others. -/
theorem samePageRank_of_weights
    (h : ∀ r ∈ ofTypes types g.relationships, weight' r = weight r) :
    SamePageRank g g weight weight' types types := by
  intro rules top
  have hlinks : linksOf weight' g.nodeIds (ofTypes types g.relationships)
      = linksOf weight g.nodeIds (ofTypes types g.relationships) := by
    unfold linksOf
    exact List.filterMap_congr fun r hr => by rw [h r hr]
  unfold pageRank scores
  rw [hlinks]

/--
**PageRank depends on shares alone.** Read over fractions, along relationships of any types with any
weights that are positive, their own or one for each, it gives the same scores in the same order
whenever something leaves the same nodes and all parts of what leaves them are the same, and so
after permuting relationships, scaling all that leave a node and merging parallel ones. It is the
same in both modes where no relationship has a weight.
-/
theorem pageRank_dependsOnShares
    (h : Over g.nodeIds weight (ofTypes types g.relationships)) :
    DependsOnShares g weight types := by
  constructor
  case shares =>
    intro g' weight' types' hids h' hsame
    exact samePageRank_of_shares hids h h' hsame
  case permuted =>
    intro g' types' hids hperm
    have h' := h.subset hperm.subset
    refine samePageRank_of_shares hids h h' (sameShares_of_weightOn h h' (fun _ => one_pos) ?_)
    intro u ends _
    rw [one_mul, weightOn_perm weight hperm]
  case scaled =>
    intro g' weight' types' factor hids hfactor hs
    have h' := h.scaled hfactor hs
    refine samePageRank_of_shares hids h h' (sameShares_of_weightOn h h' hfactor ?_)
    intro u ends hends
    exact weightOn_scaled hs hends
  case merged =>
    intro g' weight' types' group rest one hids hbefore hafter hm hrest
    have h' := ((h.subset hbefore.symm.subset).merged hm hrest).subset hafter.subset
    refine samePageRank_of_shares hids h h' (sameShares_of_weightOn h h' (fun _ => one_pos) ?_)
    intro u ends _
    rw [one_mul, weightOn_perm weight' hafter, weightOn_merged hm hrest,
      weightOn_perm weight hbefore]
  case modes =>
    intro hnone value
    refine samePageRank_of_weights fun r hr => ?_
    have hone : weightIn true r = Relationship.defaultWeight := by
      unfold weightIn Relationship.effectiveWeight
      rw [hnone r hr]
      rfl
    rw [hone]
    rfl

/-- Backwards, and with twice the weights, the shares are the same. -/
theorem pageRank_dependsOnShares_sample :
    let g := (Store.sample ⟨true, true⟩).snapshot
    SamePageRank g { g with relationships := g.relationships.reverse } (fun _ => 1) (fun _ => 2)
      [] [] :=
  (pageRank_dependsOnShares ⟨by decide, by decide, fun _ _ => one_pos⟩).shares rfl
    ⟨by decide, by decide, fun _ _ => two_pos⟩ ⟨by decide, by decide +kernel⟩

end PropertyGraph.Analytics
