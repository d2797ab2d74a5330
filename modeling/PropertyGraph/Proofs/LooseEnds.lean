import PropertyGraph.Proofs.BreadthFirst
import PropertyGraph.Proofs.Degrees
import PropertyGraph.Proofs.PageRank

/-!
# Graphs with loose ends

Nothing ties the relationships of a snapshot to its nodes, so an end of a relationship may lie at an
id that no node has. The rankings go through the nodes and list each of them once, wherever the
relationships end. The searches for components start from nodes only, but then go on to every id
that relationships lead to: `mem_components_iff`. So all nodes are grouped, and other ids with them,
unless every relationship that is followed has its two ends at nodes or none: `components_perm_iff`.
-/

namespace PropertyGraph.Analytics

variable {g : Snapshot} {types : List String}

/-! ## What the searches come to -/

theorem reaches_ofTypes_iff {x y : String} :
    Reaches (adjacent (ofTypes types g.relationships)) x y
      ↔ Relation.ReflTransGen (Linked g types) x y := by
  unfold Reaches
  rw [adjacent_eq_linked]

/-- **Components are made up of what can be reached from nodes.** -/
theorem mem_components_iff {id : String} :
    id ∈ (components g types).flatten
      ↔ ∃ node ∈ g.nodeIds, Relation.ReflTransGen (Linked g types) node id := by
  constructor
  · intro hid
    obtain ⟨c, hc, hid⟩ := List.mem_flatten.mp hid
    obtain ⟨before, start, after, unseen, heq, -, hfound⟩ := exists_found
      (fun hxy => adjacent_symm hxy) (nodup_idsOf g.nodeIds (ofTypes types g.relationships))
      (closed_idsOf _ _) hc
    have hstart : start ∈ g.nodeIds := by
      rw [heq]
      exact List.mem_append_right _ List.mem_cons_self
    exact ⟨start, hstart, reaches_ofTypes_iff.mp (hfound.reaches hid)⟩
  · rintro ⟨node, hnode, hreach⟩
    -- the component of a node has all that the node reaches
    obtain ⟨c, hc, hnc⟩ : ∃ c ∈ components g types, node ∈ c := exists_component hnode
    obtain ⟨_, _, _, hcs⟩ := components_spec g types
    obtain ⟨start, -, hiff⟩ := hcs c hc
    have hid : id ∈ c :=
      (hiff id).mpr (((hiff node).mp hnc).trans (reaches_ofTypes_iff.mpr hreach))
    exact List.mem_flatten.mpr ⟨c, hc, hid⟩

theorem nodeIds_subset_components : g.nodeIds ⊆ (components g types).flatten :=
  fun _ hnode => List.mem_flatten.mpr (exists_component hnode)

/-! ## Nodes and other ids -/

/-- Every node is in a component, and in no second place. -/
theorem filter_components_perm (hnodup : g.nodeIds.Nodup) (types : List String) :
    ((components g types).flatten.filter (· ∈ g.nodeIds)).Perm g.nodeIds := by
  refine (List.perm_ext_iff_of_nodup ((nodup_components g types).filter _) hnodup).mpr fun id => ?_
  rw [List.mem_filter, decide_eq_true_iff]
  exact ⟨And.right, fun hid => ⟨nodeIds_subset_components hid, hid⟩⟩

/-- Whether no relationship that is followed has one end at a node and the other elsewhere. -/
def Tied (g : Snapshot) (types : List String) : Prop :=
  ∀ r ∈ g.relationships, Passes types r → (r.source ∈ g.nodeIds ↔ r.target ∈ g.nodeIds)

instance : Decidable (Tied g types) :=
  inferInstanceAs (Decidable (∀ r ∈ g.relationships, Passes types r →
    (r.source ∈ g.nodeIds ↔ r.target ∈ g.nodeIds)))

theorem Tied.mem_of_linked (h : Tied g types) {x y : String} (hlink : Linked g types x y)
    (hx : x ∈ g.nodeIds) : y ∈ g.nodeIds := by
  obtain ⟨r, hr, hpass, ⟨rfl, rfl⟩ | ⟨rfl, rfl⟩⟩ := hlink
  · exact (h r hr hpass).mp hx
  · exact (h r hr hpass).mpr hx

/-- **Nothing but nodes is grouped** exactly if no relationship leads from a node elsewhere. -/
theorem components_perm_iff (hnodup : g.nodeIds.Nodup) :
    (components g types).flatten.Perm g.nodeIds ↔ Tied g types := by
  constructor
  · intro hperm r hr hpass
    -- what a node is linked to is in a component, and so it is a node
    have hmem : ∀ {x y}, Joins r x y → x ∈ g.nodeIds → y ∈ g.nodeIds := fun hj hx =>
      hperm.subset (mem_components_iff.mpr
        ⟨_, hx, Relation.ReflTransGen.single ⟨r, hr, hpass, hj⟩⟩)
    exact ⟨hmem (Or.inl ⟨rfl, rfl⟩), hmem (Or.inr ⟨rfl, rfl⟩)⟩
  · intro htied
    have honly : ∀ id ∈ (components g types).flatten, id ∈ g.nodeIds := by
      intro id hid
      obtain ⟨node, hnode, hreach⟩ := mem_components_iff.mp hid
      induction hreach with
      | refl => exact hnode
      | tail hfirst hlast ih =>
        exact htied.mem_of_linked hlast (ih (mem_components_iff.mpr ⟨node, hnode, hfirst⟩))
    have hfilter := filter_components_perm hnodup types
    rwa [List.filter_eq_self.mpr fun id hid => decide_eq_true (honly id hid)] at hfilter

/-- What the analyses of a snapshot make of its nodes, wherever its relationships end. -/
structure CoversNodes (g : Snapshot) (types : List String) : Prop where
  /-- The ranking by degree lists each node once, and nothing else. -/
  byDegree : ((degrees g types none).map NodeDegree.node).Perm g.nodeIds
  /-- So does the ranking by score, whatever the rules of the walk, with weights or without. -/
  byScore : ∀ (rules : WalkRules Float) (weighted : Bool),
    ((pageRank rules (weightIn weighted) g types none).map NodeScore.node).Perm g.nodeIds
  /-- No score comes of a division by zero, if the weights are positive. -/
  guarded : g.nodeIds ≠ [] → ∀ (rules : WalkRules ℚ) (weight : Relationship → ℚ),
    (∀ r ∈ g.relationships, 0 < weight r) →
      pageRank rules.guarded (fun r => Guarded.ofRat (weight r)) g types none
        = (pageRank rules weight g types none).map NodeScore.guarded
  /-- In the components no id is listed twice, -/
  nodup : (components g types).flatten.Nodup
  /-- and those of nodes are all there. -/
  grouped : ((components g types).flatten.filter (· ∈ g.nodeIds)).Perm g.nodeIds
  /-- An id that no node has is there if relationships lead to it from a node. -/
  reached : ∀ id, id ∈ (components g types).flatten
    ↔ ∃ node ∈ g.nodeIds, Relation.ReflTransGen (Linked g types) node id
  /-- So nothing else is there only if no relationship leads from a node to such an id. -/
  perm_iff : (components g types).flatten.Perm g.nodeIds ↔ Tied g types

/--
**Analyses cover the nodes of any snapshot**, if no two of them have the same id. Both rankings
list each node once and nothing else, whatever the relationships are, and no score comes of a
division by zero. The components have each node once as well, but with every id that relationships
lead to from a node. They are made up of nodes alone exactly if no relationship that is followed has
one end at a node and the other elsewhere.
-/
theorem coversNodes_of_nodup (hnodup : g.nodeIds.Nodup) (types : List String) :
    CoversNodes g types where
  byDegree := map_node_degrees g types
  byScore := fun rules weighted => map_node_pageRank rules (weightIn weighted) g types
  guarded := fun hnodes rules _ hpos =>
    (isLawful_of_nodup hnodes hnodup hpos types rules).guarded none
  nodup := nodup_components g types
  grouped := filter_components_perm hnodup types
  reached := fun _ => mem_components_iff
  perm_iff := components_perm_iff hnodup

/-- A node, and relationships to an id that no node has, and from there to another one. -/
def loose : Snapshot where
  nodes := [⟨"a", "A", ∅, [], ⟨0, none⟩, ⟨0, none⟩⟩]
  relationships := [⟨"r", "R", "a", "b", ∅, none, ⟨0, none⟩, ⟨0, none⟩⟩,
    ⟨"s", "S", "c", "b", ∅, none, ⟨0, none⟩, ⟨0, none⟩⟩]
  name := none
  description := none

/-- The second relationship alone is no loose end of a node. -/
theorem coversNodes_of_nodup_loose :
    loose.nodeIds.Nodup ∧ CoversNodes loose ["S"] ∧ (components loose ["S"]).flatten.Perm ["a"] :=
  have h := coversNodes_of_nodup (g := loose) (by decide) ["S"]
  ⟨by decide, h, h.perm_iff.mpr (by decide)⟩

/-- With the first one followed, ids are grouped that no node has. -/
theorem not_perm_components_loose :
    loose.nodeIds.Nodup ∧ components loose [] = [["a", "b", "c"]]
      ∧ ¬ (components loose []).flatten.Perm loose.nodeIds := by
  refine ⟨by decide, ?_, fun hperm => ?_⟩
  · decide +kernel
  · exact absurd ((components_perm_iff (by decide)).mp hperm) (by decide)

end PropertyGraph.Analytics
