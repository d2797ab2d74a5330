import Mathlib.Data.Set.Basic
import Mathlib.Order.Bounds.Defs
import PropertyGraph.Analytics.Degree
import PropertyGraph.Proofs.Components
import PropertyGraph.Proofs.Degrees
import PropertyGraph.Store.Query

/-!
# Queries and analyses see one graph

What a relationship is to a node is worked out in several places. The queries ask in which direction
it meets the node and which end is the other one; the degree counts sources and targets apart; the
components follow both ends. They agree because each comes down to the same two facts: whether the
relationship is of the type asked for, and which of its ends are the node. A self-loop has both, so
it is listed once, counted twice, and makes the node a neighbour of itself.

Neighbours are then the steps that components are made of: `Sound.isNeighbour_iff`.
-/

namespace PropertyGraph

namespace Store

open Analytics

variable {s : Store} {type : Option String} {a : String}

/-! ## Relationships at a node -/

theorem exists_node (h : s.hasNode a = true) : ∃ n, s.node a = .ok n := by
  obtain ⟨n, hn⟩ := OrderedMap.mem_keys.mp (hasNode_iff.mp h)
  exact ⟨n, node_eq_ok_iff.mpr hn⟩

/-- A node that is there is answered with the relationships that meet it. -/
theorem nodeRelationships_eq (h : s.hasNode a = true) (type : Option String) (d : Direction) :
    s.nodeRelationships a type d
      = .ok ((s.relationshipsOfType type).filter fun r => d.meets r a) := by
  obtain ⟨n, hn⟩ := exists_node h
  unfold nodeRelationships
  rw [hn]
  rfl

theorem length_outgoing (rs : List Relationship) (a : String) :
    (rs.filter fun r => Direction.outgoing.meets r a).length = rs.countP (·.source == a) := by
  have hmeets : ∀ r : Relationship, Direction.outgoing.meets r a = (r.source == a) :=
    fun _ => Bool.or_false _
  rw [List.countP_eq_length_filter, List.filter_congr fun r _ => hmeets r]

theorem length_incoming (rs : List Relationship) (a : String) :
    (rs.filter fun r => Direction.incoming.meets r a).length = rs.countP (·.target == a) :=
  List.countP_eq_length_filter.symm

/-- The filter of the analyses for one type, or for none, is that of the queries. -/
theorem ofTypes_toList (s : Store) (type : Option String) :
    ofTypes type.toList s.snapshot.relationships = s.relationshipsOfType type := by
  cases type with
  | none =>
    show s.snapshot.relationships = s.snapshot.relationships.filter fun _ => true
    rw [List.filter_true]
  | some t =>
    refine List.filter_congr fun r _ => ?_
    show [t].contains r.type = (r.type == t)
    rw [List.contains_cons, List.contains_nil, Bool.or_false]

/-- What touches a node leaves it or reaches it, and a self-loop does both. -/
theorem countP_touches (rs : List Relationship) (a : String) :
    rs.countP (fun r => r.touches a) + rs.countP (fun r => r.source == a && r.target == a)
      = rs.countP (·.source == a) + rs.countP (·.target == a) := by
  induction rs with
  | nil => rfl
  | cons r rs ih =>
    rw [List.countP_cons, List.countP_cons, List.countP_cons, List.countP_cons]
    unfold Relationship.touches at ih ⊢
    by_cases hs : r.source = a
    · by_cases ht : r.target = a
      · simp only [hs, ht, beq_self_eq_true, Bool.or_self, Bool.and_self, if_true]
        omega
      · have ht' : (r.target == a) = false := beq_false_of_ne ht
        simp only [hs, ht', beq_self_eq_true, Bool.or_false, Bool.and_false, if_true,
          Bool.false_eq_true, if_false]
        omega
    · have hs' : (r.source == a) = false := beq_false_of_ne hs
      simp only [hs', Bool.false_or, Bool.false_and, Bool.false_eq_true, if_false]
      omega

/-- The degree of a node is listed under its id, and no other number is. -/
theorem mem_degrees_iff {g : Snapshot} {types : List String} {k : Nat} (ha : a ∈ g.nodeIds) :
    NodeDegree.mk a k ∈ degrees g types none ↔ k = degreeOf (ofTypes types g.relationships) a := by
  rw [(degrees_perm g types).mem_iff, List.mem_map]
  constructor
  · rintro ⟨id, -, heq⟩
    obtain ⟨rfl, rfl⟩ := NodeDegree.mk.inj heq
    rfl
  · rintro rfl
    exact ⟨a, ha, rfl⟩

/-! ## Neighbours -/

/-- The ids at the other ends of the relationships that touch a node. -/
def otherEnds (s : Store) (a : String) (type : Option String) : List String :=
  ((s.relationshipsOfType type).filter fun r => r.touches a).map fun r =>
    if r.source == a then r.target else r.source

theorem mem_relationshipsOfType {r : Relationship} :
    r ∈ s.relationshipsOfType type ↔ r ∈ s.relationships.values ∧ Passes type.toList r := by
  rw [← ofTypes_toList, mem_ofTypes]
  rfl

theorem mem_otherEnds {b : String} : b ∈ s.otherEnds a type ↔ s.Adjacent type.toList a b := by
  unfold otherEnds Adjacent
  rw [List.mem_map]
  refine exists_congr fun r => ?_
  rw [List.mem_filter, mem_relationshipsOfType, and_assoc, and_assoc]
  refine and_congr_right fun _ => and_congr_right fun _ => ?_
  unfold Relationship.touches Joins
  simp only [Bool.or_eq_true, beq_iff_eq]
  by_cases hs : r.source = a
  · -- of a self-loop the target is taken for the other end, which is the node itself
    rw [if_pos hs]
    constructor
    · rintro ⟨-, hb⟩
      exact Or.inl ⟨hs, hb⟩
    · rintro (⟨-, hb⟩ | ⟨ht, hb⟩)
      · exact ⟨Or.inl hs, hb⟩
      · exact ⟨Or.inl hs, ht.trans (hs.symm.trans hb)⟩
  · rw [if_neg hs]
    constructor
    · rintro ⟨hs' | ht, hb⟩
      · exact absurd hs' hs
      · exact Or.inr ⟨ht, hb⟩
    · rintro (⟨hs', -⟩ | ⟨ht, hb⟩)
      · exact absurd hs' hs
      · exact ⟨Or.inr ht, hb⟩

/-- The neighbours are the nodes that are other ends, in the order in which nodes were added. -/
theorem Sound.neighbours_eq (hs : s.Sound) (ha : s.hasNode a = true) (type : Option String) :
    s.neighbours a type
      = .ok (s.nodes.values.filter fun n => (s.otherEnds a type).contains n.id) := by
  have hkeyed : (s.nodes.entries.filter fun e => (s.otherEnds a type).contains e.1)
      = s.nodes.entries.filter fun e => (s.otherEnds a type).contains e.2.id :=
    List.filter_congr fun e he => by rw [hs.nodes_keyed e he]
  unfold neighbours
  rw [nodeRelationships_eq ha]
  show Except.ok ((s.nodes.entries.filter fun e => (s.otherEnds a type).contains e.1).map _) = _
  rw [hkeyed, OrderedMap.values, List.filter_map]
  rfl

/-- Whether a node is listed as a neighbour of another. -/
def IsNeighbour (s : Store) (type : Option String) (a b : String) : Prop :=
  ∃ ns, s.neighbours a type = .ok ns ∧ b ∈ ns.map Node.id

theorem isNeighbour_iff_mem {ns : List Node} (h : s.neighbours a type = .ok ns) {b : String} :
    s.IsNeighbour type a b ↔ b ∈ ns.map Node.id := by
  constructor
  · rintro ⟨ns', h', hb⟩
    obtain rfl : ns = ns' := Except.ok.inj (h.symm.trans h')
    exact hb
  · intro hb
    exact ⟨ns, h, hb⟩

theorem Adjacent.symm {types : List String} {b : String} (h : s.Adjacent types a b) :
    s.Adjacent types b a := by
  obtain ⟨r, hr, hpass, hj⟩ := h
  exact ⟨r, hr, hpass, hj.symm⟩

/-- Relationships join nodes that are there. -/
theorem Sound.live_of_adjacent (hs : s.Sound) {types : List String} {b : String}
    (h : s.Adjacent types a b) : s.hasNode a = true ∧ s.hasNode b = true := by
  obtain ⟨r, hr, -, hj⟩ := h
  obtain ⟨k, hk⟩ := OrderedMap.mem_values.mp hr
  have hsource : s.hasNode r.source = true := hasNode_iff.mpr (hs.source_live (k, r) hk)
  have htarget : s.hasNode r.target = true := hasNode_iff.mpr (hs.target_live (k, r) hk)
  rcases hj with ⟨rfl, rfl⟩ | ⟨rfl, rfl⟩
  · exact ⟨hsource, htarget⟩
  · exact ⟨htarget, hsource⟩

theorem hasNode_of_neighbours {ns : List Node} (h : s.neighbours a type = .ok ns) :
    s.hasNode a = true := by
  unfold neighbours nodeRelationships at h
  obtain ⟨_, h, -⟩ := bind_eq_ok_iff.mp h
  obtain ⟨n, hn, -⟩ := bind_eq_ok_iff.mp h
  exact hasNode_iff.mpr (OrderedMap.mem_keys.mpr ⟨n, node_eq_ok_iff.mp hn⟩)

/-- **Neighbours are what the components follow.** -/
theorem Sound.isNeighbour_iff (hs : s.Sound) {b : String} :
    s.IsNeighbour type a b ↔ s.Adjacent type.toList a b := by
  have hlisted : b ∈ (s.nodes.values.filter fun n =>
      (s.otherEnds a type).contains n.id).map Node.id
        ↔ s.hasNode b = true ∧ s.Adjacent type.toList a b := by
    have hids : s.nodes.values.map Node.id = s.nodes.keys := hs.nodeIds_eq
    rw [← mem_otherEnds, hasNode_iff, ← hids, List.mem_map, List.mem_map]
    constructor
    · rintro ⟨n, hn, rfl⟩
      obtain ⟨hmem, hend⟩ := List.mem_filter.mp hn
      exact ⟨⟨n, hmem, rfl⟩, List.contains_iff_mem.mp hend⟩
    · rintro ⟨⟨n, hmem, rfl⟩, hend⟩
      exact ⟨n, List.mem_filter.mpr ⟨hmem, List.contains_iff_mem.mpr hend⟩, rfl⟩
  constructor
  · intro h
    obtain ⟨ns, hns, -⟩ := id h
    have ha := hasNode_of_neighbours hns
    exact (hlisted.mp ((isNeighbour_iff_mem (hs.neighbours_eq ha type)).mp h)).2
  · intro hadj
    obtain ⟨ha, hb⟩ := hs.live_of_adjacent hadj
    exact (isNeighbour_iff_mem (hs.neighbours_eq ha type)).mpr (hlisted.mpr ⟨hb, hadj⟩)

/-- A component is the least set that has a node of it and with every node its neighbours. -/
theorem Sound.isLeast_component (hs : s.Sound) {c : List String}
    (hc : c ∈ components s.snapshot type.toList) (hac : a ∈ c) :
    IsLeast {p : Set String | a ∈ p ∧ ∀ x ∈ p, ∀ y, s.IsNeighbour type x y → y ∈ p}
      {x | x ∈ c} := by
  have hcomponent : ∀ x, x ∈ c ↔ s.Connected type.toList a x :=
    fun x => mem_component_iff hc hac
  constructor
  · refine ⟨hac, fun x hx y hxy => ?_⟩
    exact (hcomponent y).mpr (((hcomponent x).mp hx).tail (hs.isNeighbour_iff.mp hxy))
  · intro p hp x hx
    obtain ⟨hap, hclosed⟩ := hp
    -- along a path from the node, whatever has it and is closed is never left
    induction (hcomponent x).mp hx with
    | refl => exact hap
    | @tail y z hay hyz ih =>
      exact hclosed y (ih ((hcomponent y).mpr hay)) z (hs.isNeighbour_iff.mpr hyz)

/-! ## All of it at one node -/

/-- How the answers of the queries at a node go together with what the analyses find. -/
structure AgreesAt (s : Store) (a : String) (type : Option String)
    (both outgoing incoming : List Relationship) (nearby : List Node) : Prop where
  /-- These are the relationships at the node in each direction, -/
  both_eq : s.nodeRelationships a type .both = .ok both
  outgoing_eq : s.nodeRelationships a type .outgoing = .ok outgoing
  incoming_eq : s.nodeRelationships a type .incoming = .ok incoming
  /-- and these are its neighbours. -/
  nearby_eq : s.neighbours a type = .ok nearby
  /-- Listed are the relationships of the type with the node for an end, in their order, -/
  listed : both = s.relationships.values.filter fun r =>
    type.all (r.type == ·) && (r.source == a || r.target == a)
  /-- each once. -/
  once : (both.map Relationship.id).Nodup
  /-- Those that leave it and those that reach it are as many, with self-loops among both. -/
  counted : both.length + s.relationships.values.countP (fun r =>
      type.all (r.type == ·) && (r.source == a && r.target == a))
    = outgoing.length + incoming.length
  /-- Together they are its degree. -/
  degree : ∀ k, ⟨a, k⟩ ∈ degrees s.snapshot type.toList none
    ↔ k = outgoing.length + incoming.length
  /-- Neighbours are nodes of the store, in their order, -/
  ordered : nearby.Sublist s.nodes.values
  /-- each once. -/
  distinct : (nearby.map Node.id).Nodup
  /-- The node is among them exactly if it has a self-loop of the type. -/
  itself : a ∈ nearby.map Node.id
    ↔ ∃ r ∈ s.relationships.values, type.all (r.type == ·) ∧ r.source = a ∧ r.target = a
  /-- It is a neighbour of its neighbours, and of no others. -/
  symmetric : ∀ b, b ∈ nearby.map Node.id ↔ s.IsNeighbour type b a
  /-- It is in a component, -/
  located : ∃ c ∈ components s.snapshot type.toList, a ∈ c
  /-- which is the least set that has it and with every node the neighbours of that. -/
  least : ∀ c ∈ components s.snapshot type.toList, a ∈ c →
    IsLeast {p : Set String | a ∈ p ∧ ∀ x ∈ p, ∀ y, s.IsNeighbour type x y → y ∈ p} {x | x ∈ c}

theorem passes_toList_iff {r : Relationship} :
    Passes type.toList r ↔ type.all (r.type == ·) = true := by
  cases type with
  | none => simp [Passes]
  | some t => simp [Passes]

/--
**Queries and analyses agree.** At every node of a reachable store, and for relationships of any one
type or of all, the lists in each direction, the degree, the neighbours and the component describe
one graph.
-/
theorem exists_agreesAt (h : Reachable s) (ha : s.hasNode a = true) (type : Option String) :
    ∃ both outgoing incoming nearby, s.AgreesAt a type both outgoing incoming nearby := by
  have hs := sound_of_reachable h
  have hneighbour : ∀ b, b ∈ (s.nodes.values.filter fun n =>
      (s.otherEnds a type).contains n.id).map Node.id ↔ s.Adjacent type.toList a b := by
    intro b
    rw [← isNeighbour_iff_mem (hs.neighbours_eq ha type), hs.isNeighbour_iff]
  have hnodes : (s.nodes.values.map Node.id).Nodup := hs.nodeIds_eq ▸ s.nodes.nodup_keys
  have hrels : (s.relationships.values.map Relationship.id).Nodup :=
    hs.relationshipIds_eq ▸ s.relationships.nodup_keys
  refine ⟨_, _, _, _, nodeRelationships_eq ha type .both, nodeRelationships_eq ha type .outgoing,
    nodeRelationships_eq ha type .incoming, hs.neighbours_eq ha type, ?listed, ?once, ?counted,
    ?degree, ?ordered, ?distinct, ?itself, ?symmetric, hs.exists_component ha, ?least⟩
  case listed =>
    show (s.relationships.values.filter _).filter _ = _
    rw [List.filter_filter]
    exact List.filter_congr fun r _ => Bool.and_comm _ _
  case once =>
    exact ((List.filter_sublist.trans List.filter_sublist).map Relationship.id).nodup hrels
  case counted =>
    have hloops : s.relationships.values.countP (fun r =>
        type.all (r.type == ·) && (r.source == a && r.target == a))
          = (s.relationshipsOfType type).countP (fun r => r.source == a && r.target == a) := by
      show _ = (s.relationships.values.filter _).countP _
      rw [List.countP_filter]
      exact List.countP_congr fun r _ => by rw [Bool.and_comm]
    rw [hloops, length_outgoing, length_incoming, ← List.countP_eq_length_filter]
    exact countP_touches _ a
  case degree =>
    intro k
    have hid : a ∈ s.snapshot.nodeIds := by
      have hids : s.snapshot.nodeIds = s.nodes.keys := hs.nodeIds_eq
      rw [hids]
      exact hasNode_iff.mp ha
    rw [mem_degrees_iff hid, ofTypes_toList, length_outgoing, length_incoming]
    rfl
  case ordered => exact List.filter_sublist
  case distinct => exact (List.filter_sublist.map Node.id).nodup hnodes
  case itself =>
    rw [hneighbour]
    refine exists_congr fun r => and_congr_right fun _ => ?_
    rw [passes_toList_iff]
    refine and_congr_right fun _ => ⟨?_, fun hr => Or.inl hr⟩
    rintro (hr | ⟨ht, hsource⟩)
    · exact hr
    · exact ⟨hsource, ht⟩
  case symmetric =>
    intro b
    rw [hneighbour, hs.isNeighbour_iff]
    exact ⟨Adjacent.symm, Adjacent.symm⟩
  case least =>
    intro c hc hac
    exact hs.isLeast_component hc hac

/-- A node that is its own neighbour. -/
theorem exists_agreesAt_sample :
    ∃ both outgoing incoming nearby,
      (sample ⟨true, true⟩).AgreesAt "c" (some "T") both outgoing incoming nearby :=
  exists_agreesAt (Reachable.sample ⟨true, true⟩) (by decide) (some "T")

end Store

end PropertyGraph
