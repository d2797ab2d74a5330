import PropertyGraph.Proofs.Operations
import PropertyGraph.Proofs.Reachable
import PropertyGraph.Proofs.Recheck

/-!
# Importing as creating one by one

A snapshot that was read from a document can be added to a store as a whole, or its elements can be
created one after the other with their ids, the nodes before the relationships. The two ways check
different things in a different order: the first compares all ids and ends with the store and with
those that are pending, before it changes anything; the second validates every element again, in a
store that grows.

They agree. `Store.SameButDates` relates the store that grows to the one that takes the elements as
they are, and what is admitted next depends on the keys and the policy only, which related stores
share.
-/

namespace PropertyGraph

/-! ## Drafts of elements -/

/-- What asks for a node like a given one, under its id. -/
def Node.draft (n : Node) : NodeDraft where
  type := .text n.type
  properties := n.properties.toEntries
  labels := n.labels.map .text
  id := some (.text n.id)

/-- What asks for a relationship like a given one, under its id. -/
def Relationship.draft (r : Relationship) : RelationshipDraft where
  type := .text r.type
  source := r.source
  target := r.target
  properties := r.properties.toEntries
  weight := r.weightDocument
  id := some (.text r.id)

/-- The calls that create the elements of a snapshot one by one. -/
def Snapshot.creations (g : Snapshot) : List Call :=
  g.nodes.map (fun n => .createNode n.draft)
    ++ g.relationships.map fun r => .createRelationship r.draft

/-- A node without its date-times. -/
def Node.undated (n : Node) : Node := n.stampedAt default

/-- A relationship without its date-times. -/
def Relationship.undated (r : Relationship) : Relationship := r.stampedAt default

namespace Store

variable {s t u : Store} {supply : Supply}

/-! ## Calls in sequence -/

/-- Whether all calls of a sequence go through, made one after the other. -/
def accepts (s : Store) (supply : Supply) : List Call → Bool
  | [] => true
  | c :: cs =>
    let (refusal, s, supply) := s.call supply c
    refusal.isNone && s.accepts supply cs

theorem accepts_cons (s : Store) (supply : Supply) (c : Call) (cs : List Call) :
    s.accepts supply (c :: cs)
      = ((s.call supply c).1.isNone
        && (s.call supply c).2.1.accepts (s.call supply c).2.2 cs) := rfl

theorem calls_cons (s : Store) (supply : Supply) (c : Call) (cs : List Call) :
    s.calls supply (c :: cs) = (s.call supply c).2.1.calls (s.call supply c).2.2 cs := rfl

theorem accepts_append (s : Store) (supply : Supply) (cs ds : List Call) :
    s.accepts supply (cs ++ ds)
      = (s.accepts supply cs && (s.calls supply cs).1.accepts (s.calls supply cs).2 ds) := by
  induction cs generalizing s supply with
  | nil => rfl
  | cons c cs ih =>
    rw [List.cons_append, accepts_cons, accepts_cons, calls_cons, ih, Bool.and_assoc]

theorem calls_append (s : Store) (supply : Supply) (cs ds : List Call) :
    s.calls supply (cs ++ ds) = (s.calls supply cs).1.calls (s.calls supply cs).2 ds := by
  induction cs generalizing s supply with
  | nil => rfl
  | cons c cs ih => rw [List.cons_append, calls_cons, calls_cons, ih]

/-! ## Stores with the same elements -/

/-- Two stores with the same elements in the same order, date-times apart. -/
structure SameButDates (t u : Store) : Prop where
  policy : t.policy = u.policy
  nodes : t.nodes.map Node.undated = u.nodes.map Node.undated
  relationships :
    t.relationships.map Relationship.undated = u.relationships.map Relationship.undated

namespace SameButDates

theorem refl (s : Store) : s.SameButDates s := ⟨rfl, rfl, rfl⟩

theorem node_keys (h : t.SameButDates u) : t.nodes.keys = u.nodes.keys := by
  have heq := congrArg OrderedMap.keys h.nodes
  rwa [OrderedMap.keys_map, OrderedMap.keys_map] at heq

theorem relationship_keys (h : t.SameButDates u) :
    t.relationships.keys = u.relationships.keys := by
  have heq := congrArg OrderedMap.keys h.relationships
  rwa [OrderedMap.keys_map, OrderedMap.keys_map] at heq

/-- A node that is created and one that is taken differ in their date-times only. -/
theorem putNode (h : t.SameButDates u) (supply : Supply) (n : Node) (d : DateTime) :
    ((t.stamped supply).putNode (n.stampedAt d)).SameButDates (u.takeNode n) where
  policy := h.policy
  nodes := by
    show (t.nodes.insert n.id (n.stampedAt d)).map _ = (u.nodes.insert n.id n).map _
    rw [OrderedMap.map_insert, OrderedMap.map_insert, h.nodes]
    rfl
  relationships := h.relationships

theorem putRelationship (h : t.SameButDates u) (supply : Supply) (r : Relationship)
    (d : DateTime) :
    ((t.stamped supply).putRelationship (r.stampedAt d)).SameButDates (u.takeRelationship r) where
  policy := h.policy
  nodes := h.nodes
  relationships := by
    show (t.relationships.insert r.id (r.stampedAt d)).map _ = (u.relationships.insert r.id r).map _
    rw [OrderedMap.map_insert, OrderedMap.map_insert, h.relationships]
    rfl

end SameButDates

/-! ## One element -/

/-- An id that is not blank is used as it is, unless it is taken. -/
theorem newId_given {id : String} (h : Text.isBlankText id = false) (word : String)
    (taken : String → Bool) (tokens : TokenSource) :
    newId (some (.text id)) word taken tokens
      = (if taken id then .error (.idInUse id) else .ok id, tokens) := by
  unfold newId callerId
  dsimp only
  rw [h]
  rfl

/-- A valid node is created under its id, with new date-times, unless the id is taken. -/
theorem call_createNode_draft (s : Store) (supply : Supply) {n : Node} (hn : n.Valid) :
    s.call supply (.createNode n.draft)
      = if n.id ∈ s.nodes.keys then (some (.graph (.idInUse n.id)), s, supply)
        else (none, (s.stamped supply).putNode (n.stampedAt (s.stamp supply).1),
          (s.stamp supply).2.2) := by
  have hid := newId_given hn.id nodeWord s.hasNode supply.tokens
  unfold call createNode Node.draft
  dsimp only
  rw [draftType?_text hn.type, hid]
  by_cases htaken : n.id ∈ s.nodes.keys
  · rw [if_pos (hasNode_iff.mpr htaken), if_pos htaken]
    rfl
  · rw [if_neg (fun h => htaken (hasNode_iff.mp h)), if_neg htaken]
    dsimp only
    rw [Properties.ofList_toEntries, hn.check_again]
    rfl

/-- Whether a relationship could be added to a store. -/
structure Joinable (s : Store) (r : Relationship) : Prop where
  source : r.source ∈ s.nodes.keys
  target : r.target ∈ s.nodes.keys
  loop : r.source = r.target → s.policy.allowSelfLoops = true
  new : r.id ∉ s.relationships.keys

/-- A valid relationship that could be added is created under its id, with new date-times. -/
theorem call_createRelationship_of_joinable {r : Relationship} (hr : r.Valid) (hw : r.Weighable)
    (h : s.Joinable r) (supply : Supply) :
    s.call supply (.createRelationship r.draft)
      = (none, (s.stamped supply).putRelationship (r.stampedAt (s.stamp supply).1),
          (s.stamp supply).2.2) := by
  have hends : s.admitEnds r.draft = .ok r.type :=
    admitEnds_eq_ok_iff.mpr ⟨hasNode_iff.mpr h.source, hasNode_iff.mpr h.target, h.loop,
      draftType?_text hr.type⟩
  have hid : newId r.draft.id relationshipWord s.hasRelationship supply.tokens
      = (.ok r.id, supply.tokens) := by
    rw [Relationship.draft, newId_given hr.id, hasRelationship,
      OrderedMap.contains_eq_false_iff.mpr h.new]
    rfl
  unfold call createRelationship
  dsimp only
  rw [hends]
  dsimp only
  rw [hid]
  dsimp only
  unfold Relationship.draft
  dsimp only
  rw [Properties.ofList_toEntries, hr.check_again hw]
  rfl

/-- One that could not be added is refused. -/
theorem call_createRelationship_of_not_joinable {r : Relationship} (hr : r.Valid)
    (h : ¬ s.Joinable r) (supply : Supply) :
    ((s.call supply (.createRelationship r.draft)).1).isNone = false := by
  unfold call
  dsimp only
  rcases createRelationship_cases s r.draft supply with
    ⟨e, tokens, heq⟩ | ⟨vs, tokens, heq⟩ | ⟨type, tokens, q, hends, hid, -, -⟩
  · rw [heq]
    rfl
  · rw [heq]
    rfl
  · -- a creation that goes through has found the ends and a free id
    obtain ⟨hs, ht, hl, -⟩ := admitEnds_eq_ok_iff.mp hends
    have hfree := not_taken_of_newId hid
    rw [Relationship.draft, newId_given hr.id] at hid
    have hgiven := congrArg Prod.fst hid
    dsimp only at hgiven
    split at hgiven
    · exact absurd hgiven (by simp)
    · rw [← Except.ok.inj hgiven] at hfree
      exact absurd ⟨hasNode_iff.mp hs, hasNode_iff.mp ht, hl,
        OrderedMap.contains_eq_false_iff.mp hfree⟩ h

/-! ## All nodes, then all relationships -/

theorem SameButDates.joinable_iff (h : t.SameButDates u) {r : Relationship} :
    t.Joinable r ↔ u.Joinable r := by
  constructor
  · intro ⟨h1, h2, h3, h4⟩
    exact ⟨h.node_keys ▸ h1, h.node_keys ▸ h2, h.policy ▸ h3, h.relationship_keys ▸ h4⟩
  · intro ⟨h1, h2, h3, h4⟩
    exact ⟨h.node_keys ▸ h1, h.node_keys ▸ h2, h.policy ▸ h3, h.relationship_keys ▸ h4⟩

/--
Nodes are created one by one exactly if their ids are new and distinct, and this leaves the same
elements as taking them.
-/
theorem create_nodes (h : t.SameButDates u) (supply : Supply) {ns : List Node}
    (hns : ∀ n ∈ ns, n.Valid) :
    (t.accepts supply (ns.map fun n => .createNode n.draft) = true
        ↔ (∀ n ∈ ns, n.id ∉ u.nodes.keys) ∧ (ns.map Node.id).Nodup)
      ∧ (t.accepts supply (ns.map fun n => .createNode n.draft) = true →
        (t.calls supply (ns.map fun n => .createNode n.draft)).1.SameButDates
          (ns.foldl takeNode u)) := by
  -- in step: the next node is created in the one store and taken in the other
  induction ns generalizing t u supply with
  | nil => exact ⟨by simp [accepts], fun _ => h⟩
  | cons n ns ih =>
    have hn : n.Valid := hns n List.mem_cons_self
    have hcall := call_createNode_draft t supply hn
    rw [h.node_keys] at hcall
    rw [List.map_cons, accepts_cons, calls_cons, fresh_cons, List.foldl_cons]
    by_cases htaken : n.id ∈ u.nodes.keys
    · rw [if_pos htaken] at hcall
      rw [hcall]
      exact ⟨by simp [htaken], by simp⟩
    · rw [if_neg htaken] at hcall
      rw [hcall]
      obtain ⟨hiff, hsame⟩ := ih (h.putNode supply n (t.stamp supply).1)
        (t.stamp supply).2.2 fun m hm => hns m (List.mem_cons_of_mem _ hm)
      refine ⟨?_, hsame⟩
      have hkeys : ∀ id, id ∉ (u.takeNode n).nodes.keys ↔ id ∉ n.id :: u.nodes.keys := by
        intro id
        rw [List.mem_cons]
        exact not_congr OrderedMap.mem_keys_insert
      simp only [Option.isNone_none, Bool.true_and, hiff, htaken, not_false_eq_true, true_and,
        hkeys]

/-- Next to a relationship that was taken, another can be added if it has another id. -/
theorem joinable_takeRelationship_iff {q r : Relationship} :
    (u.takeRelationship r).Joinable q ↔ u.Joinable q ∧ q.id ≠ r.id := by
  constructor
  · intro ⟨h1, h2, h3, h4⟩
    have hnot := mt OrderedMap.mem_keys_insert.mpr h4
    exact ⟨⟨h1, h2, h3, fun hmem => hnot (Or.inr hmem)⟩, fun heq => hnot (Or.inl heq)⟩
  · intro ⟨⟨h1, h2, h3, h4⟩, hne⟩
    refine ⟨h1, h2, h3, fun hmem => ?_⟩
    rcases OrderedMap.mem_keys_insert.mp hmem with heq | hmem
    · exact hne heq
    · exact h4 hmem

/-- Relationships are created one by one exactly if each could be added, and their ids differ. -/
theorem create_relationships (h : t.SameButDates u) (supply : Supply) {rs : List Relationship}
    (hrs : ∀ r ∈ rs, r.Valid) (hws : ∀ r ∈ rs, r.Weighable) :
    (t.accepts supply (rs.map fun r => .createRelationship r.draft) = true
        ↔ (∀ r ∈ rs, u.Joinable r) ∧ (rs.map Relationship.id).Nodup)
      ∧ (t.accepts supply (rs.map fun r => .createRelationship r.draft) = true →
        (t.calls supply (rs.map fun r => .createRelationship r.draft)).1.SameButDates
          (rs.foldl takeRelationship u)) := by
  induction rs generalizing t u supply with
  | nil => exact ⟨by simp [accepts], fun _ => h⟩
  | cons r rs ih =>
    have hr : r.Valid := hrs r List.mem_cons_self
    rw [List.map_cons, accepts_cons, calls_cons, List.foldl_cons, List.map_cons, List.nodup_cons,
      List.forall_mem_cons]
    by_cases hjoin : u.Joinable r
    · rw [call_createRelationship_of_joinable hr (hws r List.mem_cons_self)
        (h.joinable_iff.mpr hjoin) supply]
      obtain ⟨hiff, hsame⟩ := ih (h.putRelationship supply r (t.stamp supply).1)
        (t.stamp supply).2.2 (fun q hq => hrs q (List.mem_cons_of_mem _ hq))
        fun q hq => hws q (List.mem_cons_of_mem _ hq)
      refine ⟨?_, hsame⟩
      have hids : (∀ q ∈ rs, q.id ≠ r.id) ↔ r.id ∉ rs.map Relationship.id := by
        rw [List.mem_map]
        constructor
        · rintro hne ⟨q, hq, heq⟩
          exact hne q hq heq
        · intro hnot q hq heq
          exact hnot ⟨q, hq, heq⟩
      simp only [Option.isNone_none, Bool.true_and, hiff, joinable_takeRelationship_iff,
        forall_and, hids, hjoin, true_and, and_assoc]
    · have hno := call_createRelationship_of_not_joinable hr (mt h.joinable_iff.mp hjoin) supply
      rw [hno]
      exact ⟨by simp [hjoin], by simp⟩

/-- The nodes that relationships find are those of the store and those that were taken. -/
theorem mem_keys_foldl_takeNode {ns : List Node} (hnew : ∀ n ∈ ns, n.id ∉ s.nodes.keys)
    (hnd : (ns.map Node.id).Nodup) (id : String) :
    id ∈ (ns.foldl takeNode s).nodes.keys ↔ id ∈ s.nodes.keys ∨ id ∈ ns.map Node.id := by
  unfold OrderedMap.keys
  rw [(foldl_takeNode s ns).2.1, OrderedMap.insertAll_fresh, List.map_append, List.mem_append,
    List.map_map]
  · rfl
  · intro e he
    obtain ⟨n, hn, rfl⟩ := List.mem_map.mp he
    exact hnew n hn
  · rw [List.map_map]
    exact hnd

/-- A snapshot is created one by one exactly if it can be added as a whole, to the same effect. -/
theorem create_snapshot (s : Store) (supply : Supply) {g : Snapshot} (hg : g.Valid)
    (hw : ∀ r ∈ g.relationships, r.Weighable) :
    (s.accepts supply g.creations = true ↔ s.Admits g)
      ∧ (s.accepts supply g.creations = true →
        (s.calls supply g.creations).1.SameButDates (s.takeSnapshot g)) := by
  obtain ⟨hnodes, hsame⟩ := create_nodes (SameButDates.refl s) supply hg.nodes
  unfold Snapshot.creations
  rw [accepts_append, calls_append, Bool.and_eq_true]
  constructor
  · constructor
    · rintro ⟨hns, hrs⟩
      obtain ⟨hnew, hnd⟩ := hnodes.mp hns
      obtain ⟨hjoin, hrnd⟩ := (create_relationships (hsame hns) _ hg.relationships hw).1.mp hrs
      exact
        { nodes_new := hnew
          nodes_nodup := hnd
          relationships_new := fun r hr => (foldl_takeNode s g.nodes).2.2 ▸ (hjoin r hr).new
          relationships_nodup := hrnd
          source := fun r hr => (mem_keys_foldl_takeNode hnew hnd _).mp (hjoin r hr).source
          target := fun r hr => (mem_keys_foldl_takeNode hnew hnd _).mp (hjoin r hr).target
          loops := fun r hr => (foldl_takeNode s g.nodes).1 ▸ (hjoin r hr).loop }
    · intro h
      have hns := hnodes.mpr ⟨h.nodes_new, h.nodes_nodup⟩
      refine ⟨hns, (create_relationships (hsame hns) _ hg.relationships hw).1.mpr
        ⟨fun r hr => ?_, h.relationships_nodup⟩⟩
      have hids := mem_keys_foldl_takeNode h.nodes_new h.nodes_nodup
      exact
        { source := (hids _).mpr (h.source r hr)
          target := (hids _).mpr (h.target r hr)
          loop := (foldl_takeNode s g.nodes).1 ▸ h.loops r hr
          new := (foldl_takeNode s g.nodes).2.2 ▸ h.relationships_new r hr }
  · rintro ⟨hns, hrs⟩
    exact (create_relationships (hsame hns) _ hg.relationships hw).2 hrs

/--
**Importing a snapshot is creating its elements one by one.** The import of a snapshot that was read
from a document goes through exactly if each creation does, the nodes first, and then both leave the
same elements in the same order. They differ in date-times only: the import appends the elements of
the snapshot as they are.
-/
theorem import_iff_creations {d : Document} {g : Snapshot} (hg : Snapshot.ofDocument d = .ok g)
    (s : Store) (supply : Supply) :
    ((∃ counts, (s.importSnapshot g).1 = .ok counts) ↔ s.accepts supply g.creations = true)
      ∧ (s.accepts supply g.creations = true →
        (s.calls supply g.creations).1.SameButDates (s.importSnapshot g).2
        ∧ (s.importSnapshot g).2.nodes.entries
          = s.nodes.entries ++ g.nodes.map (fun n => (n.id, n))
        ∧ (s.importSnapshot g).2.relationships.entries
          = s.relationships.entries ++ g.relationships.map fun r => (r.id, r)) := by
  obtain ⟨hiff, hsame⟩ := create_snapshot s supply (Snapshot.valid_of_ofDocument hg)
    (Relationship.guaranteed_weighable.of_snapshot hg)
  rcases importSnapshot_cases s g with ⟨e, hcheck, heq⟩ | ⟨hadm, heq⟩
  · -- the check refuses, so the snapshot cannot be added in either way
    have hno : ¬ s.accepts supply g.creations = true := by
      intro h
      have hok : s.checkSnapshot g false = .ok () := checkSnapshot_eq_ok_iff.mpr (hiff.mp h)
      rw [hok] at hcheck
      exact absurd hcheck (by simp)
    rw [heq]
    exact ⟨⟨fun ⟨_, h⟩ => absurd h (by simp), fun h => absurd h hno⟩, fun h => absurd h hno⟩
  · rw [heq]
    exact ⟨⟨fun _ => hiff.mpr hadm, fun _ => ⟨_, rfl⟩⟩, fun h => ⟨hsame h,
      entries_nodes_takeSnapshot hadm, entries_relationships_takeSnapshot hadm⟩⟩

/-- A node with blanks around its type, and a relationship that leads to it from node `a`. -/
def bridgeDocument : Document :=
  .map [("nodes", .list [.map [("id", .text "d"), ("type", .text " D "), ("createdAt", .int 0),
      ("updatedAt", .text "2024-01-01")]]),
    ("relationships", .list [.map [("id", .text "t"), ("type", .text "T"),
      ("sourceId", .text "a"), ("targetId", .text "d"), ("weight", .bool true),
      ("createdAt", .int 0), ("updatedAt", .int 0)]])]

def bridge : Snapshot where
  nodes := [⟨"d", "D", ∅, [], ⟨0, some 0⟩, ⟨1704067200000000, none⟩⟩]
  relationships := [⟨"t", "T", "a", "d", ∅, some 1, ⟨0, some 0⟩, ⟨0, some 0⟩⟩]
  name := none
  description := none

/-- A relationship from a node of the store to one of the snapshot comes in both ways. -/
theorem import_iff_creations_bridge :
    (∃ counts, ((sample ⟨true, false⟩).importSnapshot bridge).1 = .ok counts)
      ∧ ((sample ⟨true, false⟩).calls ⟨⟨[], fun _ => "", 0⟩, .still 7⟩
          bridge.creations).1.SameButDates ((sample ⟨true, false⟩).importSnapshot bridge).2 := by
  have h := import_iff_creations (d := bridgeDocument) (g := bridge) (by decide +kernel)
    (sample ⟨true, false⟩) ⟨⟨[], fun _ => "", 0⟩, .still 7⟩
  have haccepts : (sample ⟨true, false⟩).accepts ⟨⟨[], fun _ => "", 0⟩, .still 7⟩
      bridge.creations = true := by decide +kernel
  exact ⟨h.1.mpr haccepts, (h.2 haccepts).1⟩

end Store

end PropertyGraph
