import PropertyGraph.Proofs.Changes
import PropertyGraph.Proofs.Lineage

/-!
# What updates add up to

Along a run only updates of an element change it: of all that a call can tell, only an update that
goes through tells of an amendment, and what is not amended is kept as it is. So whatever else
happens, the element has what the changes of these updates, one after the other, make of it.

A single update goes through exactly if its change makes anything of the element at all, which is
why two updates can be made as one and an update can be repeated.
-/

namespace PropertyGraph

namespace Store

open Edit (Spare Leads Keeps reported)

variable {s t u : Store} {supply : Supply} {id : String}

/-! ## Single updates -/

/-- An update that goes through puts in what the change makes of the element. -/
theorem makes_of_updateNode (hs : s.Sound) {c : NodeChange} {n' : Node} {rest : Supply}
    (h : s.updateNode id c supply = (.ok n', t, rest)) : ∃ n, (id, n) ∈ s.nodes.entries
      ∧ c.Makes n n' ∧ t.nodes = s.nodes.insert id n' ∧ t.relationships = s.relationships := by
  rcases updateNode_cases s id c supply with ⟨e, heq⟩ | ⟨vs, heq⟩ | ⟨n, m, hmem, hcheck, heq⟩
  · exact absurd (congrArg Prod.fst (heq.symm.trans h)) (by simp)
  · exact absurd (congrArg Prod.fst (heq.symm.trans h)) (by simp)
  · obtain ⟨hok, hleft⟩ := Prod.mk.inj (heq.symm.trans h)
    obtain rfl := (Prod.mk.inj hleft).1
    obtain rfl := Except.ok.inj hok
    exact ⟨n, hmem, ((NodeChange.check_iff (hs.nodes_valid _ hmem)).mp hcheck).1, rfl, rfl⟩

theorem Sound.of_updateNode (hs : s.Sound) {c : NodeChange} {n' : Node} {rest : Supply}
    (h : s.updateNode id c supply = (.ok n', t, rest)) : t.Sound := by
  have hsound := hs.updateNode id c supply
  rwa [h] at hsound

/-- What a change makes of an element, an update puts in, with the stamp that it takes. -/
theorem updateNode_of_makes (hs : s.Sound) {n n' : Node} (hn : (id, n) ∈ s.nodes.entries)
    {c : NodeChange} (h : c.Makes n n') (supply : Supply) :
    ∃ t rest, s.updateNode id c supply
        = (.ok { n' with updatedAt := (s.stamp supply).1 }, t, rest)
      ∧ t.nodes = s.nodes.insert id { n' with updatedAt := (s.stamp supply).1 }
      ∧ t.relationships = s.relationships := by
  have hmakes : c.Makes n { n' with updatedAt := (s.stamp supply).1 } :=
    ⟨h.lasting, h.properties, h.valid, h.labels⟩
  have hcheck := (NodeChange.check_iff (hs.nodes_valid _ hn)).mpr ⟨hmakes, rfl⟩
  refine ⟨{ s.stamped supply with nodes := s.nodes.insert id _ }, (s.stamp supply).2.2, ?_, rfl,
    rfl⟩
  unfold updateNode
  rw [node_eq_ok_iff.mpr hn]
  dsimp only at hcheck ⊢
  rw [hcheck]
  rfl

theorem makes_of_updateRelationship (hs : s.Sound) {c : RelationshipChange} {r' : Relationship}
    {rest : Supply} (h : s.updateRelationship id c supply = (.ok r', t, rest)) :
    ∃ r, (id, r) ∈ s.relationships.entries ∧ c.Makes r r'
      ∧ t.relationships = s.relationships.insert id r' ∧ t.nodes = s.nodes := by
  rcases updateRelationship_cases s id c supply with
    ⟨e, heq⟩ | ⟨vs, heq⟩ | ⟨r, q, hmem, hcheck, heq⟩
  · exact absurd (congrArg Prod.fst (heq.symm.trans h)) (by simp)
  · exact absurd (congrArg Prod.fst (heq.symm.trans h)) (by simp)
  · obtain ⟨hok, hleft⟩ := Prod.mk.inj (heq.symm.trans h)
    obtain rfl := (Prod.mk.inj hleft).1
    obtain rfl := Except.ok.inj hok
    have hvalid := hs.relationships_valid _ hmem
    exact ⟨r, hmem, ((RelationshipChange.check_iff hvalid).mp hcheck).1, rfl, rfl⟩

theorem Sound.of_updateRelationship (hs : s.Sound) {c : RelationshipChange} {r' : Relationship}
    {rest : Supply} (h : s.updateRelationship id c supply = (.ok r', t, rest)) : t.Sound := by
  have hsound := hs.updateRelationship id c supply
  rwa [h] at hsound

theorem updateRelationship_of_makes (hs : s.Sound) {r r' : Relationship}
    (hr : (id, r) ∈ s.relationships.entries) {c : RelationshipChange} (h : c.Makes r r')
    (supply : Supply) : ∃ t rest, s.updateRelationship id c supply
        = (.ok { r' with updatedAt := (s.stamp supply).1 }, t, rest)
      ∧ t.relationships = s.relationships.insert id { r' with updatedAt := (s.stamp supply).1 }
      ∧ t.nodes = s.nodes := by
  have hmakes : c.Makes r { r' with updatedAt := (s.stamp supply).1 } :=
    ⟨h.lasting, h.properties, h.valid, h.weight⟩
  have hcheck := (RelationshipChange.check_iff (hs.relationships_valid _ hr)).mpr ⟨hmakes, rfl⟩
  refine ⟨{ s.stamped supply with relationships := s.relationships.insert id _ },
    (s.stamp supply).2.2, ?_, rfl, rfl⟩
  unfold updateRelationship
  rw [relationship_eq_ok_iff.mpr hr]
  dsimp only at hcheck ⊢
  rw [hcheck]
  rfl

/-! ## Updates along runs -/

/-- The change that an update asks for, if it is one of a given element and goes through. -/
def applied {ε α γ : Type} (id other : String) (change : γ) : Except ε α → Option γ
  | .ok _ => if other = id then some change else none
  | .error _ => none

/-- What a call changes in a node. -/
def nodeChange? (id : String) (s : Store) (supply : Supply) : Call → Option NodeChange
  | .updateNode other change => applied id other change (s.updateNode other change supply).1
  | _ => none

/-- What a call changes in a relationship. -/
def relationshipChange? (id : String) (s : Store) (supply : Supply) :
    Call → Option RelationshipChange
  | .updateRelationship other change =>
    applied id other change (s.updateRelationship other change supply).1
  | _ => none

/-- What calls, made one after the other, have changed in an element. -/
def changes {γ : Type} (change? : Store → Supply → Call → Option γ) (s : Store) :
    List (Supply × Call) → List γ
  | [] => []
  | (supply, c) :: cs =>
    (change? s supply c).toList ++ (s.call supply c).2.1.changes change? cs

theorem applied_eq_some_iff {ε α γ : Type} {other : String} {change c : γ}
    {answer : Except ε α} :
    applied id other change answer = some c ↔ other = id ∧ change = c ∧ ∃ a, answer = .ok a := by
  unfold applied
  cases answer with
  | ok a => simp
  | error e => simp

theorem nodeChange?_eq_some_iff {c : Call} {change : NodeChange} :
    nodeChange? id s supply c = some change
      ↔ c = .updateNode id change ∧ ∃ n', (s.updateNode id change supply).1 = .ok n' := by
  constructor
  · intro h
    unfold nodeChange? at h
    split at h
    · obtain ⟨rfl, rfl, hok⟩ := applied_eq_some_iff.mp h
      exact ⟨rfl, hok⟩
    · exact absurd h (by simp)
  · rintro ⟨rfl, hok⟩
    exact applied_eq_some_iff.mpr ⟨rfl, rfl, hok⟩

theorem relationshipChange?_eq_some_iff {c : Call} {change : RelationshipChange} :
    relationshipChange? id s supply c = some change
      ↔ c = .updateRelationship id change
        ∧ ∃ r', (s.updateRelationship id change supply).1 = .ok r' := by
  constructor
  · intro h
    unfold relationshipChange? at h
    split at h
    · obtain ⟨rfl, rfl, hok⟩ := applied_eq_some_iff.mp h
      exact ⟨rfl, hok⟩
    · exact absurd h (by simp)
  · rintro ⟨rfl, hok⟩
    exact applied_eq_some_iff.mpr ⟨rfl, rfl, hok⟩

theorem mem_reported {ε α : Type} {told : α → List Edit} {answer : Except ε α} {e : Edit} :
    e ∈ reported told answer ↔ ∃ a, answer = .ok a ∧ e ∈ told a := by
  cases answer with
  | ok a => simp [reported]
  | error _ => simp [reported]

theorem change_removes {kind : ElementKind} {ids : List String} :
    ∀ e ∈ Edit.removes kind ids, e.change = .remove := by
  intro e he
  obtain ⟨_, -, rfl⟩ := List.mem_map.mp he
  rfl

theorem change_appends {kind : ElementKind} {ids : List String} :
    ∀ e ∈ Edit.appends kind ids, e.change = .append := by
  intro e he
  obtain ⟨_, -, rfl⟩ := List.mem_map.mp he
  rfl

theorem change_removals (s : Store) : ∀ e ∈ s.removals, e.change = .remove := by
  intro e he
  exact (List.mem_append.mp he).elim (change_removes e) (change_removes e)

theorem change_snapshot (g : Snapshot) : ∀ e ∈ g.appends, e.change = .append := by
  intro e he
  exact (List.mem_append.mp he).elim (change_appends e) (change_appends e)

/-- A batch amends nothing. -/
theorem not_amend_of_runBatch {rules : BatchRules} {text : String} :
    ∀ e ∈ s.edits supply (.runBatch rules text), e.change ≠ .amend := by
  show ∀ e ∈ (Batch.run rules recordedStep ((s, supply), []) text).2.2, e.change ≠ .amend
  refine Batch.run_preserves
    (P := fun state : (Store × Supply) × List Edit => ∀ e ∈ state.2, e.change ≠ .amend) ?_ rules
    text ((s, supply), []) (by simp)
  intro state c h e he
  rcases List.mem_append.mp he with he | he
  · exact h e he
  · obtain ⟨o, -, he⟩ := mem_reported.mp he
    unfold toldBy at he
    split at he
    · rw [List.mem_singleton.mp he]
      simp
    · rw [state.1.1.change_removals e he]
      simp
    · exact absurd he List.not_mem_nil

/-- Only an update that goes through amends an element. -/
theorem exists_update_of_amend {c : Call} {kind : ElementKind}
    (h : ⟨kind, .amend, id⟩ ∈ s.edits supply c) :
    (kind = .node ∧ ∃ change n', c = .updateNode id change
        ∧ (s.updateNode id change supply).1 = .ok n')
      ∨ kind = .relationship ∧ ∃ change r', c = .updateRelationship id change
        ∧ (s.updateRelationship id change supply).1 = .ok r' := by
  cases c with
  | createNode draft =>
    obtain ⟨_, -, he⟩ := mem_reported.mp h
    exact absurd he (by simp)
  | updateNode other change =>
    obtain ⟨n', hok, he⟩ := mem_reported.mp h
    obtain ⟨rfl, -, rfl⟩ := Edit.mk.inj (List.mem_singleton.mp he)
    exact Or.inl ⟨rfl, change, n', rfl, hok⟩
  | deleteNode other =>
    obtain ⟨touching, -, he⟩ := mem_reported.mp h
    rcases List.mem_cons.mp he with he | he
    · exact absurd he (by simp)
    · exact absurd (change_removes _ he) (by simp)
  | createRelationship draft =>
    obtain ⟨_, -, he⟩ := mem_reported.mp h
    exact absurd he (by simp)
  | updateRelationship other change =>
    obtain ⟨r', hok, he⟩ := mem_reported.mp h
    obtain ⟨rfl, -, rfl⟩ := Edit.mk.inj (List.mem_singleton.mp he)
    exact Or.inr ⟨rfl, change, r', rfl, hok⟩
  | deleteRelationship other =>
    obtain ⟨_, -, he⟩ := mem_reported.mp h
    exact absurd he (by simp)
  | clear => exact absurd (s.change_removals _ h) (by simp)
  | checkSnapshot g replace => exact absurd h List.not_mem_nil
  | importSnapshot g =>
    obtain ⟨_, -, he⟩ := mem_reported.mp h
    exact absurd (change_snapshot g _ he) (by simp)
  | restore a blob =>
    rw [edits] at h
    split at h
    · obtain ⟨_, -, he⟩ := mem_reported.mp h
      rcases List.mem_append.mp he with he | he
      · exact absurd (s.change_removals _ he) (by simp)
      · exact absurd (change_snapshot _ _ he) (by simp)
    · exact absurd h List.not_mem_nil
  | runBatch rules text => exact absurd rfl (not_amend_of_runBatch _ h)

/-- A call that leaves a node in makes of it what it changes in it, if anything. -/
theorem amended_of_call_node (hs : s.Sound) (supply : Supply) (c : Call) {n : Node}
    (hn : (id, n) ∈ s.nodes.entries) (hspare : Spare (s.edits supply c) .node id) :
    ∃ n', (id, n') ∈ (s.call supply c).2.1.nodes.entries
      ∧ n.Amended (nodeChange? id s supply c).toList n' := by
  cases hchange : nodeChange? id s supply c with
  | some change =>
    obtain ⟨rfl, n', hok⟩ := nodeChange?_eq_some_iff.mp hchange
    obtain ⟨m, hm, hmakes, hnodes, -⟩ := makes_of_updateNode hs (Prod.ext hok rfl)
    obtain rfl : m = n := congrArg Prod.snd (OrderedMap.eq_of_mem_entries hm hn rfl)
    have hafter : (id, n') ∈ (s.nodes.insert id n').entries :=
      OrderedMap.mem_entries_insert.mpr (Or.inl rfl)
    exact ⟨n', hnodes ▸ hafter, .single hmakes⟩
  | none =>
    -- what is not amended is kept as it is
    obtain ⟨⟨key, n'⟩, hn', hkeeps⟩ := (descends_call hs supply c).nodes.exists_keeps hn hspare
    obtain rfl : key = id := hkeeps.key
    have hsame : n' = n := hkeeps.same fun hamend => by
      rcases exists_update_of_amend hamend with ⟨-, change, m, rfl, hok⟩ | ⟨hkind, -⟩
      · exact absurd (hchange.symm.trans (nodeChange?_eq_some_iff.mpr ⟨rfl, m, hok⟩)) (by simp)
      · exact absurd hkind (by simp)
    exact ⟨n', hn', hsame ▸ .refl n⟩

theorem amended_of_call_relationship (hs : s.Sound) (supply : Supply) (c : Call) {r : Relationship}
    (hr : (id, r) ∈ s.relationships.entries)
    (hspare : Spare (s.edits supply c) .relationship id) :
    ∃ r', (id, r') ∈ (s.call supply c).2.1.relationships.entries
      ∧ r.Amended (relationshipChange? id s supply c).toList r' := by
  cases hchange : relationshipChange? id s supply c with
  | some change =>
    obtain ⟨rfl, r', hok⟩ := relationshipChange?_eq_some_iff.mp hchange
    obtain ⟨q, hq, hmakes, hrelationships, -⟩ :=
      makes_of_updateRelationship hs (Prod.ext hok rfl)
    obtain rfl : q = r := congrArg Prod.snd (OrderedMap.eq_of_mem_entries hq hr rfl)
    have hafter : (id, r') ∈ (s.relationships.insert id r').entries :=
      OrderedMap.mem_entries_insert.mpr (Or.inl rfl)
    exact ⟨r', hrelationships ▸ hafter, .single hmakes⟩
  | none =>
    obtain ⟨⟨key, r'⟩, hr', hkeeps⟩ :=
      (descends_call hs supply c).relationships.exists_keeps hr hspare
    obtain rfl : key = id := hkeeps.key
    have hsame : r' = r := hkeeps.same fun hamend => by
      rcases exists_update_of_amend hamend with ⟨hkind, -⟩ | ⟨-, change, q, rfl, hok⟩
      · exact absurd hkind (by simp)
      · exact absurd (hchange.symm.trans (relationshipChange?_eq_some_iff.mpr ⟨rfl, q, hok⟩))
          (by simp)
    exact ⟨r', hr', hsame ▸ .refl r⟩

/-- What the changes of single calls make of an element, those of a run make of it. -/
theorem amended_of_run {α γ : Type} {elements : Store → List (String × α)} {kind : ElementKind}
    {change? : Store → Supply → Call → Option γ} {R : α → List γ → α → Prop}
    (hrefl : ∀ a, R a [] a) (htrans : ∀ {a b d fs gs}, R a fs b → R b gs d → R a (fs ++ gs) d)
    (hcall : ∀ {s : Store}, s.Sound → ∀ supply c {a}, (id, a) ∈ elements s →
      Spare (s.edits supply c) kind id →
        ∃ a', (id, a') ∈ elements (s.call supply c).2.1 ∧ R a (change? s supply c).toList a')
    (hs : s.Sound) {cs : List (Supply × Call)} (hcs : ∀ x ∈ cs, x.2.Proper) {a : α}
    (ha : (id, a) ∈ elements s) (hspare : Spare (s.trail cs) kind id) :
    ∃ a', (id, a') ∈ elements (s.after cs) ∧ R a (s.changes change? cs) a' := by
  induction cs generalizing s a with
  | nil => exact ⟨a, ha, hrefl a⟩
  | cons x cs ih =>
    obtain ⟨hfirst, hlater⟩ := Edit.spare_append.mp hspare
    obtain ⟨b, hb, hab⟩ := hcall hs x.1 x.2 ha hfirst
    have hnext := sound_call hs x.1 x.2 (hcs x List.mem_cons_self)
    obtain ⟨d, hd, hbd⟩ := ih hnext (fun y hy => hcs y (List.mem_cons_of_mem _ hy)) hb hlater
    exact ⟨d, hd, htrans hab hbd⟩

/-! ## All updates -/

/-- How updates of the elements of a store add up. -/
structure AddsUp (s : Store) : Prop where
  /-- A node that a run leaves in ends as its successful updates make it. -/
  nodes : ∀ cs : List (Supply × Call), (∀ x ∈ cs, x.2.Proper) → ∀ id n,
    (id, n) ∈ s.nodes.entries → Spare (s.trail cs) .node id →
      ∃ n', (id, n') ∈ (s.after cs).nodes.entries ∧ n.Amended (s.changes (nodeChange? id) cs) n'
  /-- So does a relationship. -/
  relationships : ∀ cs : List (Supply × Call), (∀ x ∈ cs, x.2.Proper) → ∀ id r,
    (id, r) ∈ s.relationships.entries → Spare (s.trail cs) .relationship id →
      ∃ r', (id, r') ∈ (s.after cs).relationships.entries
        ∧ r.Amended (s.changes (relationshipChange? id) cs) r'
  /-- Instead of two updates of a node, the second of which merges, one can be made. -/
  nodeJoined : ∀ id c d supply supply' supply'' n₁ n₂ t u rest rest', d.replace = false →
    s.updateNode id c supply = (.ok n₁, t, rest) → t.updateNode id d supply' = (.ok n₂, u, rest') →
      ∃ v rest'', s.updateNode id (c.andThen d) supply''
          = (.ok { n₂ with updatedAt := (s.stamp supply'').1 }, v, rest'')
        ∧ v.nodes = u.nodes.insert id { n₂ with updatedAt := (s.stamp supply'').1 }
        ∧ v.relationships = u.relationships
  /-- So it is with relationships. -/
  relationshipJoined : ∀ id c d supply supply' supply'' r₁ r₂ t u rest rest', d.replace = false →
    s.updateRelationship id c supply = (.ok r₁, t, rest) →
    t.updateRelationship id d supply' = (.ok r₂, u, rest') →
      ∃ v rest'', s.updateRelationship id (c.andThen d) supply''
          = (.ok { r₂ with updatedAt := (s.stamp supply'').1 }, v, rest'')
        ∧ v.relationships = u.relationships.insert id { r₂ with updatedAt := (s.stamp supply'').1 }
        ∧ v.nodes = u.nodes
  /-- An update of a node that is repeated changes the date of the update only. -/
  nodeRepeated : ∀ id c supply supply' n₁ t rest, s.updateNode id c supply = (.ok n₁, t, rest) →
    ∃ u rest', t.updateNode id c supply'
        = (.ok { n₁ with updatedAt := (t.stamp supply').1 }, u, rest')
      ∧ u.nodes = t.nodes.insert id { n₁ with updatedAt := (t.stamp supply').1 }
      ∧ u.relationships = t.relationships
  /-- So it is with relationships. -/
  relationshipRepeated : ∀ id c supply supply' r₁ t rest,
    s.updateRelationship id c supply = (.ok r₁, t, rest) →
      ∃ u rest', t.updateRelationship id c supply'
          = (.ok { r₁ with updatedAt := (t.stamp supply').1 }, u, rest')
        ∧ u.relationships = t.relationships.insert id { r₁ with updatedAt := (t.stamp supply').1 }
        ∧ u.nodes = t.nodes

/-- The element that an assignment has put in is found under its key. -/
theorem eq_of_mem_insert {α : Type} {m : OrderedMap String α} {a b : α}
    (h : (id, a) ∈ (m.insert id b).entries) : a = b := by
  rcases OrderedMap.mem_entries_insert.mp h with heq | ⟨-, hne⟩
  · exact congrArg Prod.snd heq
  · exact absurd rfl hne

/--
**Updates add up.** In every store that can be reached, and along every run from it, an element has
what the successful updates of it make of it one after the other, whatever else happens. Updates
that merge can be joined, and each can be repeated.
-/
theorem updates_addUp (h : Reachable s) : s.AddsUp := by
  have hs := sound_of_reachable h
  constructor
  case nodes =>
    intro cs hcs id n hn hspare
    exact amended_of_run Node.Amended.refl Node.Amended.append
      (fun hs supply c _ hn => amended_of_call_node hs supply c hn) hs hcs hn hspare
  case relationships =>
    intro cs hcs id r hr hspare
    exact amended_of_run Relationship.Amended.refl Relationship.Amended.append
      (fun hs supply c _ hr => amended_of_call_relationship hs supply c hr) hs hcs hr hspare
  case nodeJoined =>
    intro id c d supply supply' supply'' n₁ n₂ t u rest rest' hmerge hfirst hsecond
    obtain ⟨n, hn, hmakes, ht, htr⟩ := makes_of_updateNode hs hfirst
    have hts := hs.of_updateNode hfirst
    obtain ⟨m, hm, hmakes', hu, hur⟩ := makes_of_updateNode hts hsecond
    obtain rfl : m = n₁ := eq_of_mem_insert (ht ▸ hm)
    obtain ⟨v, rest'', hjoined, hv, hvr⟩ :=
      updateNode_of_makes hs hn (hmakes.andThen hmakes' hmerge) supply''
    refine ⟨v, rest'', hjoined, ?_, hvr.trans (hur.trans htr).symm⟩
    rw [hv, hu, ht, OrderedMap.insert_insert, OrderedMap.insert_insert]
  case relationshipJoined =>
    intro id c d supply supply' supply'' r₁ r₂ t u rest rest' hmerge hfirst hsecond
    obtain ⟨r, hr, hmakes, ht, htn⟩ := makes_of_updateRelationship hs hfirst
    have hts := hs.of_updateRelationship hfirst
    obtain ⟨q, hq, hmakes', hu, hun⟩ := makes_of_updateRelationship hts hsecond
    obtain rfl : q = r₁ := eq_of_mem_insert (ht ▸ hq)
    obtain ⟨v, rest'', hjoined, hv, hvn⟩ :=
      updateRelationship_of_makes hs hr (hmakes.andThen hmakes' hmerge) supply''
    refine ⟨v, rest'', hjoined, ?_, hvn.trans (hun.trans htn).symm⟩
    rw [hv, hu, ht, OrderedMap.insert_insert, OrderedMap.insert_insert]
  case nodeRepeated =>
    intro id c supply supply' n₁ t rest hfirst
    obtain ⟨n, hn, hmakes, ht, -⟩ := makes_of_updateNode hs hfirst
    have hts := hs.of_updateNode hfirst
    have hn₁ : (id, n₁) ∈ t.nodes.entries :=
      ht ▸ OrderedMap.mem_entries_insert.mpr (Or.inl rfl)
    exact updateNode_of_makes hts hn₁ hmakes.again supply'
  case relationshipRepeated =>
    intro id c supply supply' r₁ t rest hfirst
    obtain ⟨r, hr, hmakes, ht, -⟩ := makes_of_updateRelationship hs hfirst
    have hts := hs.of_updateRelationship hfirst
    have hr₁ : (id, r₁) ∈ t.relationships.entries :=
      ht ▸ OrderedMap.mem_entries_insert.mpr (Or.inl rfl)
    exact updateRelationship_of_makes hts hr₁ hmakes.again supply'

/-- A node is updated twice, and in between another one is removed. -/
theorem updates_addUp_sample :
    ∃ cs : List (Supply × Call), (∀ x ∈ cs, x.2.Proper)
      ∧ ((sample ⟨true, true⟩).changes (nodeChange? "b") cs).map NodeChange.replace
        = [true, false]
      ∧ ∃ n n' : Node, n.Amended ((sample ⟨true, true⟩).changes (nodeChange? "b") cs) n'
        ∧ ("b", n') ∈ ((sample ⟨true, true⟩).after cs).nodes.entries := by
  let supply : Supply := ⟨⟨[], fun _ => "", 0⟩, .still 0⟩
  let cs : List (Supply × Call) :=
    [(supply, .updateNode "b" ⟨[("size", .int 2)], none, true⟩), (supply, .deleteNode "c"),
      (supply, .updateNode "b" ⟨[("depth", .int 1)], some [.text "odd"], false⟩)]
  have hcs : ∀ x ∈ cs, x.2.Proper := by simp [cs, Call.Proper, Call.imported?]
  obtain ⟨n, hn⟩ := OrderedMap.mem_keys.mp
    (show "b" ∈ (sample ⟨true, true⟩).nodes.keys by decide)
  obtain ⟨n', hn', hamended⟩ := (updates_addUp (Reachable.sample ⟨true, true⟩)).nodes cs hcs "b" n
    hn (by decide)
  exact ⟨cs, hcs, by decide, n, n', hamended, hn'⟩

end Store

end PropertyGraph
