import PropertyGraph.Proofs.Elements
import PropertyGraph.Store.Import
import PropertyGraph.Store.Relationships

/-!
# What each operation of a store can come to

One lemma for each operation lists the ways it can end, with all that is known in each of them: the
answer, the state that is left, and the checks that were passed. A creation or an update is refused
before it takes a stamp, or after, or goes through; the others are refused at once or go through.
The rest of the theory splits on these cases and does not look into the operations again.

For snapshots the lemma is an equivalence: `checkSnapshot_eq_ok_iff` says what passing the check
means, without the order in which it is made.
-/

namespace PropertyGraph.Store

variable {s : Store}

/-! ## Looking up -/

theorem hasNode_iff {id : String} : s.hasNode id = true ↔ id ∈ s.nodes.keys :=
  OrderedMap.contains_iff

theorem node_eq_ok_iff {id : String} {n : Node} :
    s.node id = .ok n ↔ (id, n) ∈ s.nodes.entries := by
  unfold node
  rw [← OrderedMap.get?_eq_some_iff]
  cases s.nodes.get? id with
  | none => simp
  | some m => simp

theorem relationship_eq_ok_iff {id : String} {r : Relationship} :
    s.relationship id = .ok r ↔ (id, r) ∈ s.relationships.entries := by
  unfold relationship
  rw [← OrderedMap.get?_eq_some_iff]
  cases s.relationships.get? id with
  | none => simp
  | some q => simp

/-! ## Stamps -/

/-- The store after a stamp has been taken. -/
abbrev stamped (s : Store) (supply : Supply) : Store := (s.stamp supply).2.1

theorem stamped_lastStamp (supply : Supply) :
    (s.stamped supply).lastStamp = some (s.stamp supply).1 := rfl

/-- A stamp is never earlier than the last one, whatever the clock says. -/
theorem le_stamp {last : DateTime} (supply : Supply) (h : s.lastStamp = some last) :
    last.instant ≤ (s.stamp supply).1.instant := by
  show last.instant ≤ (s.stampFor _).instant
  unfold stampFor
  rw [h]
  exact DateTime.le_instant_laterOf_right _ _

/-! ## Ids -/

/-- The id of a new element is in no other use. -/
theorem not_taken_of_newId {given : Option Document} {word : String} {taken : String → Bool}
    {tokens tokens' : TokenSource} {id : String}
    (h : newId given word taken tokens = (.ok id, tokens')) : taken id = false := by
  unfold newId at h
  split at h
  · exact not_taken_of_firstFree h
  · -- a given id is compared with those in use
    split at h
    · exact absurd (congrArg Prod.fst h) (by simp)
    · rename_i id' _
      have hid := congrArg Prod.fst h
      dsimp only at hid
      split at hid
      · exact absurd hid (by simp)
      · rename_i hnot
        rw [← Except.ok.inj hid]
        simpa using hnot

/-! ## Nodes -/

theorem draftType?_text {type : String} (h : Text.isBlankText type = false) :
    draftType? (.text type) = some type := by
  unfold draftType?
  dsimp only
  rw [h]
  rfl

/--
A creation of a node is refused before it takes a stamp, or refused after that, or it adds one node
under an id that no node had.
-/
theorem createNode_cases (s : Store) (draft : NodeDraft) (supply : Supply) :
    (∃ e tokens, s.createNode draft supply = (.error e, s, { supply with tokens }))
    ∨ (∃ vs tokens, s.createNode draft supply
        = (.error (.invalidNode vs), (s.stamp { supply with tokens }).2))
    ∨ ∃ type tokens n, draftType? draft.type = some type
        ∧ newId draft.id nodeWord s.hasNode supply.tokens = (.ok n.id, tokens)
        ∧ Node.check n.id type (OrderedMap.ofList draft.properties).entries draft.labels
            (s.stamp { supply with tokens }).1 (s.stamp { supply with tokens }).1 = .accepted n
        ∧ s.createNode draft supply = (.ok n.id, (s.stamped { supply with tokens }).putNode n,
            (s.stamp { supply with tokens }).2.2) := by
  cases htype : draftType? draft.type with
  | none =>
    refine Or.inl ⟨.blankNodeType, supply.tokens, ?_⟩
    unfold createNode
    rw [htype]
  | some type =>
    obtain ⟨r, tokens, hid⟩ : ∃ r tokens,
        newId draft.id nodeWord s.hasNode supply.tokens = (r, tokens) := ⟨_, _, rfl⟩
    cases r with
    | error e =>
      refine Or.inl ⟨e, tokens, ?_⟩
      unfold createNode
      simp only [htype, hid]
    | ok id =>
      -- past the stamp, only the data can be refused
      refine Or.inr ?_
      cases hn : Node.check id type (OrderedMap.ofList draft.properties).entries draft.labels
          (s.stamp { supply with tokens }).1 (s.stamp { supply with tokens }).1 with
      | refused vs =>
        refine Or.inl ⟨vs, tokens, ?_⟩
        unfold createNode
        simp only [htype, hid, hn]
      | accepted n =>
        -- the check hands the id on as it is
        have hnid : id = n.id := (Node.check_eq_accepted.mp hn).1.2
        subst hnid
        refine Or.inr ⟨type, tokens, n, rfl, hid, hn, ?_⟩
        unfold createNode
        simp only [htype, hid, hn]

/-- An update of a node is refused, before or after it takes a stamp, or changes one node. -/
theorem updateNode_cases (s : Store) (id : String) (change : NodeChange) (supply : Supply) :
    (∃ e, s.updateNode id change supply = (.error e, s, supply))
    ∨ (∃ vs, s.updateNode id change supply = (.error (.invalidNode vs), (s.stamp supply).2))
    ∨ ∃ n n', (id, n) ∈ s.nodes.entries
        ∧ Node.check n.id n.type (n.properties.changed change.properties change.replace)
            (change.labels.getD (n.labels.map .text)) n.createdAt (s.stamp supply).1
          = .accepted n'
        ∧ s.updateNode id change supply
          = (.ok n', { s.stamped supply with nodes := s.nodes.insert id n' },
            (s.stamp supply).2.2) := by
  cases hn : s.node id with
  | error e =>
    refine Or.inl ⟨e, ?_⟩
    unfold updateNode
    rw [hn]
  | ok n =>
    refine Or.inr ?_
    cases hc : Node.check n.id n.type (n.properties.changed change.properties change.replace)
        (change.labels.getD (n.labels.map .text)) n.createdAt (s.stamp supply).1 with
    | refused vs =>
      refine Or.inl ⟨vs, ?_⟩
      unfold updateNode
      simp only [hn, hc]
    | accepted n' =>
      refine Or.inr ⟨n, n', node_eq_ok_iff.mp hn, hc, ?_⟩
      unfold updateNode
      simp only [hn, hc]
      rfl

/-- A node is removed together with the relationships that touch it, or nothing happens. -/
theorem deleteNode_cases (s : Store) (id : String) :
    (∃ e, s.deleteNode id = (.error e, s))
    ∨ (∃ n, (id, n) ∈ s.nodes.entries)
      ∧ s.deleteNode id = (.ok (s.incidentIds id),
          { s with
            nodes := s.nodes.erase id
            relationships := (s.incidentIds id).foldl OrderedMap.erase s.relationships }) := by
  cases hn : s.node id with
  | error e =>
    refine Or.inl ⟨e, ?_⟩
    unfold deleteNode
    rw [hn]
  | ok n =>
    by_cases hc : (!(s.incidentIds id).isEmpty && !s.policy.cascadeDeletes) = true
    · refine Or.inl ⟨.stillConnected id (s.incidentIds id), ?_⟩
      unfold deleteNode
      simp only [hn]
      rw [if_pos hc]
    · refine Or.inr ⟨⟨n, node_eq_ok_iff.mp hn⟩, ?_⟩
      unfold deleteNode
      simp only [hn]
      rw [if_neg hc]
      rfl

/-! ## Relationships -/

theorem admitEnds_eq_ok_iff {draft : RelationshipDraft} {type : String} :
    s.admitEnds draft = .ok type
      ↔ s.hasNode draft.source = true ∧ s.hasNode draft.target = true
        ∧ (draft.source = draft.target → s.policy.allowSelfLoops = true)
        ∧ draftType? draft.type = some type := by
  unfold admitEnds
  by_cases hs : s.hasNode draft.source = true
  · by_cases ht : s.hasNode draft.target = true
    · by_cases hl : draft.source = draft.target ∧ (!s.policy.allowSelfLoops) = true
      · have hno : ¬ s.policy.allowSelfLoops = true := by simpa using hl.2
        simp [ht, hl.1, hno]
      · have hyes : draft.source = draft.target → s.policy.allowSelfLoops = true := by
          intro heq
          cases hq : s.policy.allowSelfLoops with
          | true => rfl
          | false => exact absurd ⟨heq, by rw [hq]; rfl⟩ hl
        rw [if_neg (by simp [hs]), if_neg (by simp [ht]), if_neg hl]
        cases draftType? draft.type with
        | none => simp
        | some t => simpa [hs, ht] using fun _ => hyes
    · simp [hs, ht]
  · simp [hs]

/--
A creation of a relationship is refused before it takes a stamp, or refused after that, or it adds
one relationship, with both its ends in the store, under an id that no relationship had.
-/
theorem createRelationship_cases (s : Store) (draft : RelationshipDraft) (supply : Supply) :
    (∃ e tokens, s.createRelationship draft supply = (.error e, s, { supply with tokens }))
    ∨ (∃ vs tokens, s.createRelationship draft supply
        = (.error (.invalidRelationship vs), (s.stamp { supply with tokens }).2))
    ∨ ∃ type tokens r, s.admitEnds draft = .ok type
        ∧ newId draft.id relationshipWord s.hasRelationship supply.tokens = (.ok r.id, tokens)
        ∧ Relationship.check r.id type draft.source draft.target
            (OrderedMap.ofList draft.properties).entries draft.weight
            (s.stamp { supply with tokens }).1 (s.stamp { supply with tokens }).1 = .accepted r
        ∧ s.createRelationship draft supply
          = (.ok r.id, (s.stamped { supply with tokens }).putRelationship r,
            (s.stamp { supply with tokens }).2.2) := by
  cases htype : s.admitEnds draft with
  | error e =>
    refine Or.inl ⟨e, supply.tokens, ?_⟩
    unfold createRelationship
    rw [htype]
  | ok type =>
    obtain ⟨q, tokens, hid⟩ : ∃ q tokens,
        newId draft.id relationshipWord s.hasRelationship supply.tokens = (q, tokens) :=
      ⟨_, _, rfl⟩
    cases q with
    | error e =>
      refine Or.inl ⟨e, tokens, ?_⟩
      unfold createRelationship
      simp only [htype, hid]
    | ok id =>
      refine Or.inr ?_
      cases hr : Relationship.check id type draft.source draft.target
          (OrderedMap.ofList draft.properties).entries draft.weight
          (s.stamp { supply with tokens }).1 (s.stamp { supply with tokens }).1 with
      | refused vs =>
        refine Or.inl ⟨vs, tokens, ?_⟩
        unfold createRelationship
        simp only [htype, hid, hr]
      | accepted r =>
        have hrid : id = r.id := (Relationship.check_eq_accepted.mp hr).1.2
        subst hrid
        refine Or.inr ⟨type, tokens, r, rfl, hid, hr, ?_⟩
        unfold createRelationship
        simp only [htype, hid, hr]

/--
An update of a relationship is refused, before or after it takes a stamp, or changes one
relationship.
-/
theorem updateRelationship_cases (s : Store) (id : String) (change : RelationshipChange)
    (supply : Supply) :
    (∃ e, s.updateRelationship id change supply = (.error e, s, supply))
    ∨ (∃ vs, s.updateRelationship id change supply
        = (.error (.invalidRelationship vs), (s.stamp supply).2))
    ∨ ∃ r r', (id, r) ∈ s.relationships.entries
        ∧ Relationship.check r.id r.type r.source r.target
            (r.properties.changed change.properties change.replace) (r.weightAfter change)
            r.createdAt (s.stamp supply).1 = .accepted r'
        ∧ s.updateRelationship id change supply
          = (.ok r', { s.stamped supply with relationships := s.relationships.insert id r' },
            (s.stamp supply).2.2) := by
  cases hr : s.relationship id with
  | error e =>
    refine Or.inl ⟨e, ?_⟩
    unfold updateRelationship
    rw [hr]
  | ok r =>
    refine Or.inr ?_
    cases hc : Relationship.check r.id r.type r.source r.target
        (r.properties.changed change.properties change.replace) (r.weightAfter change)
        r.createdAt (s.stamp supply).1 with
    | refused vs =>
      refine Or.inl ⟨vs, ?_⟩
      unfold updateRelationship
      simp only [hr, hc]
    | accepted r' =>
      refine Or.inr ⟨r, r', relationship_eq_ok_iff.mp hr, hc, ?_⟩
      unfold updateRelationship
      simp only [hr, hc]
      rfl

theorem deleteRelationship_cases (s : Store) (id : String) :
    (∃ e, s.deleteRelationship id = (.error e, s))
    ∨ s.deleteRelationship id
        = (.ok (), { s with relationships := s.relationships.erase id }) := by
  cases hr : s.relationship id with
  | error e =>
    refine Or.inl ⟨e, ?_⟩
    unfold deleteRelationship
    rw [hr]
  | ok r =>
    refine Or.inr ?_
    unfold deleteRelationship
    rw [hr]

/-! ## Importing -/

/-- Ids are unseen and distinct if the first is unseen and, once it is seen, so are the others. -/
theorem fresh_cons {α : Type} {key : α → String} {seen : List String} {a : α} {as : List α} :
    (∀ b ∈ a :: as, key b ∉ seen) ∧ ((a :: as).map key).Nodup
      ↔ key a ∉ seen ∧ (∀ b ∈ as, key b ∉ key a :: seen) ∧ (as.map key).Nodup := by
  rw [List.map_cons, List.nodup_cons, List.forall_mem_cons]
  constructor
  · rintro ⟨⟨ha, has⟩, hnew, hnd⟩
    refine ⟨ha, ?_, hnd⟩
    intro b hb hmem
    rcases List.mem_cons.mp hmem with heq | hmem
    · exact hnew (List.mem_map.mpr ⟨b, hb, heq⟩)
    · exact has b hb hmem
  · rintro ⟨ha, has, hnd⟩
    refine ⟨⟨ha, fun b hb hmem => has b hb (List.mem_cons_of_mem _ hmem)⟩, ?_, hnd⟩
    intro hmem
    obtain ⟨b, hb, heq⟩ := List.mem_map.mp hmem
    exact has b hb (heq ▸ List.mem_cons_self)

/-- The nodes of a snapshot are admitted if their ids are new and distinct. -/
theorem admitNodes_eq_ok_iff {taken : String → Bool} {seen ids : List String} {ns : List Node} :
    admitNodes taken seen ns = .ok ids
      ↔ (∀ n ∈ ns, taken n.id = false)
        ∧ ((∀ n ∈ ns, n.id ∉ seen) ∧ (ns.map Node.id).Nodup)
        ∧ (ns.map Node.id).reverse ++ seen = ids := by
  induction ns generalizing seen with
  | nil => simp [admitNodes]
  | cons n ns ih =>
    unfold admitNodes
    rw [fresh_cons, List.forall_mem_cons]
    by_cases hn : (taken n.id || seen.contains n.id) = true
    · rw [if_pos hn]
      constructor
      · intro h
        exact absurd h (by simp)
      · rintro ⟨⟨h1, -⟩, ⟨h2, -⟩, -⟩
        rw [h1, Bool.false_or, List.contains_iff_mem] at hn
        exact absurd hn h2
    · have hfree : taken n.id = false ∧ n.id ∉ seen := by simpa using hn
      rw [if_neg hn, ih, List.map_cons, List.reverse_cons, List.append_assoc]
      constructor
      · rintro ⟨h, hfresh, heq⟩
        exact ⟨⟨hfree.1, h⟩, ⟨hfree.2, hfresh⟩, heq⟩
      · rintro ⟨⟨-, h⟩, ⟨-, hfresh⟩, heq⟩
        exact ⟨h, hfresh, heq⟩

/-- One relationship is admitted if its id is new, its ends are known and it may be a loop. -/
theorem admitRelationship_eq_ok_iff {loops : Bool} {taken known : String → Bool}
    {r : Relationship} :
    admitRelationship loops taken known r = .ok ()
      ↔ taken r.id = false ∧ known r.source = true ∧ known r.target = true
        ∧ (r.source = r.target → loops = true) := by
  unfold admitRelationship Relationship.isSelfLoop
  cases taken r.id <;> cases known r.source <;> cases known r.target <;> cases loops <;> simp

/-- The relationships of a snapshot are admitted if each is, and their ids are distinct. -/
theorem admitRelationships_eq_ok_iff {loops : Bool} {taken known : String → Bool}
    {seen : List String} {rs : List Relationship} :
    admitRelationships loops taken known seen rs = .ok ()
      ↔ (∀ r ∈ rs, admitRelationship loops taken known r = .ok ())
        ∧ (∀ r ∈ rs, r.id ∉ seen) ∧ (rs.map Relationship.id).Nodup := by
  induction rs generalizing seen with
  | nil => simp [admitRelationships]
  | cons r rs ih =>
    -- an id that was seen in the snapshot counts as taken
    have hfirst : admitRelationship loops (fun id => taken id || seen.contains id) known r = .ok ()
        ↔ admitRelationship loops taken known r = .ok () ∧ r.id ∉ seen := by
      rw [admitRelationship_eq_ok_iff, admitRelationship_eq_ok_iff, Bool.or_eq_false_iff]
      simp only [List.contains_eq_mem, decide_eq_false_iff_not]
      constructor
      · rintro ⟨⟨h1, h2⟩, h3⟩
        exact ⟨⟨h1, h3⟩, h2⟩
      · rintro ⟨⟨h1, h3⟩, h2⟩
        exact ⟨⟨h1, h2⟩, h3⟩
    rw [fresh_cons, List.forall_mem_cons, admitRelationships, bind_eq_ok_iff]
    constructor
    · rintro ⟨_, hr, hrest⟩
      obtain ⟨h1, h2⟩ := hfirst.mp hr
      obtain ⟨h, hfresh⟩ := ih.mp hrest
      exact ⟨⟨h1, h⟩, h2, hfresh⟩
    · rintro ⟨⟨h1, h⟩, h2, hfresh⟩
      exact ⟨(), hfirst.mpr ⟨h1, h2⟩, ih.mpr ⟨h, hfresh⟩⟩

/-- What a snapshot that can be added to a store satisfies. -/
structure Admits (s : Store) (g : Snapshot) : Prop where
  /-- No node has an id that is in use. -/
  nodes_new : ∀ n ∈ g.nodes, n.id ∉ s.nodes.keys
  /-- No two nodes have one id. -/
  nodes_nodup : (g.nodes.map Node.id).Nodup
  /-- No relationship has an id that is in use. -/
  relationships_new : ∀ r ∈ g.relationships, r.id ∉ s.relationships.keys
  /-- No two relationships have one id. -/
  relationships_nodup : (g.relationships.map Relationship.id).Nodup
  /-- Sources are nodes of the store or of the snapshot. -/
  source : ∀ r ∈ g.relationships, r.source ∈ s.nodes.keys ∨ r.source ∈ g.nodes.map Node.id
  /-- So are targets. -/
  target : ∀ r ∈ g.relationships, r.target ∈ s.nodes.keys ∨ r.target ∈ g.nodes.map Node.id
  /-- Self-loops are only there if they are allowed. -/
  loops : ∀ r ∈ g.relationships, r.source = r.target → s.policy.allowSelfLoops = true

/-- A snapshot passes the check exactly if it can be added, to the store or to the cleared store. -/
theorem checkSnapshot_eq_ok_iff {g : Snapshot} {replace : Bool} :
    s.checkSnapshot g replace = .ok () ↔ (if replace then s.clear else s).Admits g := by
  have hpolicy : s.policy = (if replace then s.clear else s).policy := by split <;> rfl
  unfold checkSnapshot
  rw [hpolicy]
  generalize (if replace then s.clear else s) = base
  -- the nodes are admitted first, and from then on their ids are known as ends
  have hknown : ∀ id, (base.hasNode id || ((g.nodes.map Node.id).reverse ++ []).contains id) = true
      ↔ id ∈ base.nodes.keys ∨ id ∈ g.nodes.map Node.id := by
    intro id
    rw [Bool.or_eq_true, hasNode_iff, List.contains_iff_mem, List.append_nil, List.mem_reverse]
  have hrels : admitRelationships base.policy.allowSelfLoops base.hasRelationship
        (fun id => base.hasNode id || ((g.nodes.map Node.id).reverse ++ []).contains id) []
        g.relationships = .ok ()
      ↔ (∀ r ∈ g.relationships, r.id ∉ base.relationships.keys
          ∧ (r.source ∈ base.nodes.keys ∨ r.source ∈ g.nodes.map Node.id)
          ∧ (r.target ∈ base.nodes.keys ∨ r.target ∈ g.nodes.map Node.id)
          ∧ (r.source = r.target → base.policy.allowSelfLoops = true))
        ∧ (g.relationships.map Relationship.id).Nodup := by
    simp only [admitRelationships_eq_ok_iff, admitRelationship_eq_ok_iff, List.not_mem_nil,
      not_false_eq_true, implies_true, true_and, hknown, hasRelationship,
      OrderedMap.contains_eq_false_iff]
  dsimp only
  rw [bind_eq_ok_iff]
  constructor
  · rintro ⟨ids, hids, h⟩
    obtain ⟨hnew, ⟨-, hnd⟩, rfl⟩ := admitNodes_eq_ok_iff.mp hids
    obtain ⟨hall, hrnd⟩ := hrels.mp h
    exact
      { nodes_new := fun n hn => OrderedMap.contains_eq_false_iff.mp (hnew n hn)
        nodes_nodup := hnd
        relationships_new := fun r hr => (hall r hr).1
        relationships_nodup := hrnd
        source := fun r hr => (hall r hr).2.1
        target := fun r hr => (hall r hr).2.2.1
        loops := fun r hr => (hall r hr).2.2.2 }
  · intro h
    refine ⟨_, admitNodes_eq_ok_iff.mpr ⟨?_, ⟨?_, h.nodes_nodup⟩, rfl⟩, hrels.mpr ⟨?_, ?_⟩⟩
    · intro n hn
      exact OrderedMap.contains_eq_false_iff.mpr (h.nodes_new n hn)
    · intro n _
      exact List.not_mem_nil
    · intro r hr
      exact ⟨h.relationships_new r hr, h.source r hr, h.target r hr, h.loops r hr⟩
    · exact h.relationships_nodup

/-- Taking nodes assigns them to their ids and leaves the rest, stamps apart. -/
theorem foldl_takeNode (s : Store) (ns : List Node) :
    (ns.foldl takeNode s).policy = s.policy
      ∧ (ns.foldl takeNode s).nodes = s.nodes.insertAll (ns.map fun n => (n.id, n))
      ∧ (ns.foldl takeNode s).relationships = s.relationships := by
  induction ns generalizing s with
  | nil => exact ⟨rfl, rfl, rfl⟩
  | cons n ns ih => exact ih (s.takeNode n)

theorem foldl_takeRelationship (s : Store) (rs : List Relationship) :
    (rs.foldl takeRelationship s).policy = s.policy
      ∧ (rs.foldl takeRelationship s).nodes = s.nodes
      ∧ (rs.foldl takeRelationship s).relationships
        = s.relationships.insertAll (rs.map fun r => (r.id, r)) := by
  induction rs generalizing s with
  | nil => exact ⟨rfl, rfl, rfl⟩
  | cons r rs ih => exact ih (s.takeRelationship r)

@[simp] theorem takeSnapshot_policy (g : Snapshot) : (s.takeSnapshot g).policy = s.policy := by
  unfold takeSnapshot
  rw [(foldl_takeRelationship _ _).1, (foldl_takeNode _ _).1]

/-- The nodes of a snapshot that can be added come after those that were there. -/
theorem entries_nodes_takeSnapshot {g : Snapshot} (h : s.Admits g) :
    (s.takeSnapshot g).nodes.entries = s.nodes.entries ++ g.nodes.map fun n => (n.id, n) := by
  unfold takeSnapshot
  rw [(foldl_takeRelationship _ _).2.1, (foldl_takeNode _ _).2.1]
  -- the ids are new and distinct, so every assignment appends
  refine OrderedMap.insertAll_fresh ?_ ?_
  · intro e he
    obtain ⟨n, hn, rfl⟩ := List.mem_map.mp he
    exact h.nodes_new n hn
  · rw [List.map_map]
    exact h.nodes_nodup

theorem entries_relationships_takeSnapshot {g : Snapshot} (h : s.Admits g) :
    (s.takeSnapshot g).relationships.entries
      = s.relationships.entries ++ g.relationships.map fun r => (r.id, r) := by
  unfold takeSnapshot
  rw [(foldl_takeRelationship _ _).2.2, (foldl_takeNode _ _).2.2]
  refine OrderedMap.insertAll_fresh ?_ ?_
  · intro e he
    obtain ⟨r, hr, rfl⟩ := List.mem_map.mp he
    exact h.relationships_new r hr
  · rw [List.map_map]
    exact h.relationships_nodup

theorem importSnapshot_cases (s : Store) (g : Snapshot) :
    (∃ e, s.checkSnapshot g false = .error e ∧ s.importSnapshot g = (.error e, s))
    ∨ s.Admits g
      ∧ s.importSnapshot g
        = (.ok (g.nodes.length, g.relationships.length), s.takeSnapshot g) := by
  unfold importSnapshot
  cases hc : s.checkSnapshot g false with
  | error e => exact Or.inl ⟨e, rfl, rfl⟩
  | ok u => exact Or.inr ⟨checkSnapshot_eq_ok_iff.mp hc, rfl⟩

/-- A snapshot that may take the place of all elements is imported once these are cleared away. -/
theorem importSnapshot_clear {g : Snapshot} (h : s.checkSnapshot g true = .ok ()) :
    s.clear.importSnapshot g
      = (.ok (g.nodes.length, g.relationships.length), s.clear.takeSnapshot g) := by
  -- the check before the clearing and the one after it ask for the same
  have hagain : s.clear.checkSnapshot g false = .ok () :=
    checkSnapshot_eq_ok_iff.mpr (checkSnapshot_eq_ok_iff.mp h)
  unfold importSnapshot
  rw [hagain]

/-- A replacement is refused and leaves the store alone, or goes through to its end. -/
theorem replaceWith_cases (s : Store) (g : Snapshot) :
    (∃ e, s.checkSnapshot g true = .error e ∧ s.replaceWith g = (.error e, s))
    ∨ s.clear.Admits g
      ∧ s.replaceWith g
        = (.ok (g.nodes.length, g.relationships.length), s.clear.takeSnapshot g) := by
  unfold replaceWith
  cases hc : s.checkSnapshot g true with
  | error e => exact Or.inl ⟨e, rfl, rfl⟩
  | ok u => exact Or.inr ⟨checkSnapshot_eq_ok_iff.mp hc, importSnapshot_clear hc⟩

end PropertyGraph.Store
