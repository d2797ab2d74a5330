import PropertyGraph.Proofs.BatchComposition
import PropertyGraph.Proofs.Edits
import PropertyGraph.Proofs.Refusal
import PropertyGraph.Proofs.Sound

/-!
# The course of a store

Every writer assigns to a key of a map, and an assignment to a key that is there overwrites. It
never does so unasked: a creation has drawn or checked its id, an import has compared all of its
ids with those of the store and with each other, and an update has found the element that it
replaces. So a store only appends, amends in place and removes, and what it does it says.

`Store.edits` reads off the answer of a call what it has done to the elements. `Store.Descends` says
that these edits are all that has happened on the way from one store to another. Calls, lines of
batches and runs are put together by its transitivity.
-/

namespace PropertyGraph

/-! ## Edits that are reported -/

namespace Edit

/-- The edits that an answer tells of; a refusal tells of none. -/
def reported {ε α : Type} (told : α → List Edit) : Except ε α → List Edit
  | .ok a => told a
  | .error _ => []

end Edit

/-- The edits by which the elements of a snapshot are appended. -/
def Snapshot.appends (g : Snapshot) : List Edit :=
  Edit.appends .node (g.nodes.map Node.id)
    ++ Edit.appends .relationship (g.relationships.map Relationship.id)

/-- What a call imports, if anything, has valid elements: it was read from a document, or taken from
a store whose elements are valid. -/
def Call.Proper (c : Call) : Prop := ∀ g, c.imported? = some g → g.Valid

namespace Store

open Edit (Leads reported)

/-- The edits by which all elements are removed. -/
def removals (s : Store) : List Edit :=
  Edit.removes .node s.nodes.keys ++ Edit.removes .relationship s.relationships.keys

/-- The edits that the outcome of a command tells of. -/
def toldBy (s : Store) (o : Outcome) : List Edit :=
  match o.payload with
  | .created id .. => [⟨.node, .append, id⟩]
  | .cleared => s.removals
  | _ => []

/-- Runs a command and records what its outcome tells of. -/
def recordedStep (state : (Store × Supply) × List Edit) (c : Command) :
    Except GraphError Outcome × (Store × Supply) × List Edit :=
  ((step state.1 c).1, (step state.1 c).2,
    state.2 ++ reported state.1.1.toldBy (step state.1 c).1)

/-- The edits that the answer of a call tells of. -/
def edits (s : Store) (supply : Supply) : Call → List Edit
  | .createNode draft => reported (fun id => [⟨.node, .append, id⟩]) (s.createNode draft supply).1
  | .updateNode id change =>
    reported (fun _ => [⟨.node, .amend, id⟩]) (s.updateNode id change supply).1
  | .deleteNode id =>
    reported (fun touching => ⟨.node, .remove, id⟩ :: Edit.removes .relationship touching)
      (s.deleteNode id).1
  | .createRelationship draft =>
    reported (fun id => [⟨.relationship, .append, id⟩]) (s.createRelationship draft supply).1
  | .updateRelationship id change =>
    reported (fun _ => [⟨.relationship, .amend, id⟩]) (s.updateRelationship id change supply).1
  | .deleteRelationship id =>
    reported (fun _ => [⟨.relationship, .remove, id⟩]) (s.deleteRelationship id).1
  | .clear => s.removals
  | .checkSnapshot .. => []
  | .importSnapshot g => reported (fun _ => g.appends) (s.importSnapshot g).1
  | .restore a blob =>
    match a.load blob with
    | .ok g => reported (fun _ => s.removals ++ g.appends) (s.replaceWith g).1
    | .error _ => []
  | .runBatch rules text => (Batch.run rules recordedStep ((s, supply), []) text).2.2

/-- The edits of one call after the other, each with a supply of its own. -/
def trail (s : Store) : List (Supply × Call) → List Edit
  | [] => []
  | (supply, c) :: cs => s.edits supply c ++ (s.call supply c).2.1.trail cs

/-- The store after one call after the other. -/
def after (s : Store) (cs : List (Supply × Call)) : Store :=
  cs.foldl (fun s x => (s.call x.1 x.2).2.1) s

/-! ## Descent -/

variable {s t u : Store} {es fs : List Edit}

/-- The edits are what has happened to the elements on the way from one store to another. -/
structure Descends (s : Store) (es : List Edit) (t : Store) : Prop where
  nodes : Leads Node.lasting .node es s.nodes.entries t.nodes.entries
  relationships :
    Leads Relationship.lasting .relationship es s.relationships.entries t.relationships.entries

namespace Descends

theorem trans (h : s.Descends es t) (h' : t.Descends fs u) : s.Descends (es ++ fs) u :=
  ⟨h.nodes.trans h'.nodes, h.relationships.trans h'.relationships⟩

/-- Nothing happens. -/
theorem unchanged (hn : t.nodes = s.nodes) (hr : t.relationships = s.relationships) :
    s.Descends [] t where
  nodes := by
    rw [hn]
    exact .other (fun e he => absurd he List.not_mem_nil) _
  relationships := by
    rw [hr]
    exact .other (fun e he => absurd he List.not_mem_nil) _

theorem ofNodes (hes : ∀ e ∈ es, e.kind = .node)
    (hn : Leads Node.lasting .node es s.nodes.entries t.nodes.entries)
    (hr : t.relationships = s.relationships) : s.Descends es t where
  nodes := hn
  relationships := by
    rw [hr]
    exact .other (fun e he => by simp [hes e he]) _

theorem ofRelationships (hes : ∀ e ∈ es, e.kind = .relationship) (hn : t.nodes = s.nodes)
    (hr : Leads Relationship.lasting .relationship es s.relationships.entries
      t.relationships.entries) : s.Descends es t where
  nodes := by
    rw [hn]
    exact .other (fun e he => by simp [hes e he]) _
  relationships := hr

end Descends

/-! ## What single operations do -/

/-- A created node comes last, under an id that no node had, and nothing else changes. -/
theorem appended_of_createNode {draft : NodeDraft} {supply rest : Supply} {id : String}
    (h : s.createNode draft supply = (.ok id, t, rest)) :
    id ∉ s.nodes.keys ∧ (∃ n, n.id = id ∧ t.nodes.entries = s.nodes.entries ++ [(id, n)])
      ∧ t.relationships = s.relationships := by
  rcases createNode_cases s draft supply with
    ⟨e, tokens, heq⟩ | ⟨vs, tokens, heq⟩ | ⟨type, tokens, n, -, hid, -, heq⟩
  · exact absurd (congrArg Prod.fst (heq.symm.trans h)) (by simp)
  · exact absurd (congrArg Prod.fst (heq.symm.trans h)) (by simp)
  · obtain ⟨hok, hleft⟩ := Prod.mk.inj (heq.symm.trans h)
    obtain rfl := (Prod.mk.inj hleft).1
    obtain rfl := Except.ok.inj hok
    have hnew : n.id ∉ s.nodes.keys :=
      OrderedMap.contains_eq_false_iff.mp (not_taken_of_newId hid)
    exact ⟨hnew, ⟨n, rfl, OrderedMap.entries_insert_of_not_mem hnew⟩, rfl⟩

theorem appended_of_createRelationship {draft : RelationshipDraft} {supply rest : Supply}
    {id : String} (h : s.createRelationship draft supply = (.ok id, t, rest)) :
    id ∉ s.relationships.keys
      ∧ (∃ r, r.id = id ∧ t.relationships.entries = s.relationships.entries ++ [(id, r)])
      ∧ t.nodes = s.nodes := by
  rcases createRelationship_cases s draft supply with
    ⟨e, tokens, heq⟩ | ⟨vs, tokens, heq⟩ | ⟨type, tokens, r, -, hid, -, heq⟩
  · exact absurd (congrArg Prod.fst (heq.symm.trans h)) (by simp)
  · exact absurd (congrArg Prod.fst (heq.symm.trans h)) (by simp)
  · obtain ⟨hok, hleft⟩ := Prod.mk.inj (heq.symm.trans h)
    obtain rfl := (Prod.mk.inj hleft).1
    obtain rfl := Except.ok.inj hok
    have hnew : r.id ∉ s.relationships.keys :=
      OrderedMap.contains_eq_false_iff.mp (not_taken_of_newId hid)
    exact ⟨hnew, ⟨r, rfl, OrderedMap.entries_insert_of_not_mem hnew⟩, rfl⟩

/-- An updated node stands where it stood, with all that lasts, and nothing else changes. -/
theorem amended_of_updateNode (hs : s.Sound) {id : String} {change : NodeChange}
    {supply rest : Supply} {n' : Node} (h : s.updateNode id change supply = (.ok n', t, rest)) :
    (∃ before n after, s.nodes.entries = before ++ (id, n) :: after
        ∧ t.nodes.entries = before ++ (id, n') :: after ∧ n'.lasting = n.lasting)
      ∧ t.relationships = s.relationships := by
  rcases updateNode_cases s id change supply with ⟨e, heq⟩ | ⟨vs, heq⟩ | ⟨n, m, hmem, hn, heq⟩
  · exact absurd (congrArg Prod.fst (heq.symm.trans h)) (by simp)
  · exact absurd (congrArg Prod.fst (heq.symm.trans h)) (by simp)
  · obtain ⟨hok, hleft⟩ := Prod.mk.inj (heq.symm.trans h)
    obtain rfl := (Prod.mk.inj hleft).1
    obtain rfl := Except.ok.inj hok
    obtain ⟨before, after, hbefore, hafter⟩ := OrderedMap.entries_insert_of_mem hmem m
    refine ⟨⟨before, n, after, hbefore, hafter, ?_⟩, rfl⟩
    obtain ⟨⟨-, hid⟩, ⟨-, htype⟩, -, -, hcreated, -⟩ := Node.check_eq_accepted.mp hn
    -- the type is checked again, which trims it again
    rw [Text.trim_of_trimmed (hs.nodes_valid _ hmem).trimmed] at htype
    unfold Node.lasting
    rw [← hid, ← htype, ← hcreated]

theorem amended_of_updateRelationship (hs : s.Sound) {id : String}
    {change : RelationshipChange} {supply rest : Supply} {r' : Relationship}
    (h : s.updateRelationship id change supply = (.ok r', t, rest)) :
    (∃ before r after, s.relationships.entries = before ++ (id, r) :: after
        ∧ t.relationships.entries = before ++ (id, r') :: after ∧ r'.lasting = r.lasting)
      ∧ t.nodes = s.nodes := by
  rcases updateRelationship_cases s id change supply with
    ⟨e, heq⟩ | ⟨vs, heq⟩ | ⟨r, q, hmem, hr, heq⟩
  · exact absurd (congrArg Prod.fst (heq.symm.trans h)) (by simp)
  · exact absurd (congrArg Prod.fst (heq.symm.trans h)) (by simp)
  · obtain ⟨hok, hleft⟩ := Prod.mk.inj (heq.symm.trans h)
    obtain rfl := (Prod.mk.inj hleft).1
    obtain rfl := Except.ok.inj hok
    obtain ⟨before, after, hbefore, hafter⟩ := OrderedMap.entries_insert_of_mem hmem q
    refine ⟨⟨before, r, after, hbefore, hafter, ?_⟩, rfl⟩
    obtain ⟨⟨-, hid⟩, ⟨-, htype⟩, ⟨-, hsource⟩, ⟨-, htarget⟩, -, -, hcreated, -⟩ :=
      Relationship.check_eq_accepted.mp hr
    rw [Text.trim_of_trimmed (hs.relationships_valid _ hmem).trimmed] at htype
    unfold Relationship.lasting
    rw [← hid, ← htype, ← hsource, ← htarget, ← hcreated]

/-- A relationship is among those that touch a node if it touches it. -/
theorem mem_incidentIds {e : String × Relationship} {id : String}
    (he : e ∈ s.relationships.entries) : e.1 ∈ s.incidentIds id ↔ e.2.touches id = true := by
  constructor
  · intro hmem
    obtain ⟨d, hd, hkey⟩ := List.mem_map.mp hmem
    obtain ⟨hd, htouches⟩ := List.mem_filter.mp hd
    rw [← OrderedMap.eq_of_mem_entries hd he hkey]
    exact htouches
  · intro htouches
    exact List.mem_map.mpr ⟨e, List.mem_filter.mpr ⟨he, htouches⟩, rfl⟩

/-- With a node go the relationships that touch it, and these are answered. -/
theorem removed_of_deleteNode {id : String} {touching : List String}
    (h : s.deleteNode id = (.ok touching, t)) :
    id ∈ s.nodes.keys ∧ touching = s.incidentIds id
      ∧ t.nodes.entries = s.nodes.entries.filter (fun e => e.1 ∉ [id])
      ∧ t.relationships.entries = s.relationships.entries.filter (fun e => e.1 ∉ touching) := by
  rcases deleteNode_cases s id with ⟨e, heq⟩ | ⟨⟨n, hn⟩, heq⟩
  · exact absurd (congrArg Prod.fst (heq.symm.trans h)) (by simp)
  · obtain ⟨hok, rfl⟩ := Prod.mk.inj (heq.symm.trans h)
    obtain rfl := Except.ok.inj hok
    refine ⟨OrderedMap.mem_keys.mpr ⟨n, hn⟩, rfl, ?_, OrderedMap.entries_foldl_erase _ _⟩
    exact OrderedMap.entries_foldl_erase s.nodes [id]

theorem removed_of_deleteRelationship {id : String} (h : s.deleteRelationship id = (.ok (), t)) :
    t.relationships.entries = s.relationships.entries.filter (fun e => e.1 ∉ [id])
      ∧ t.nodes = s.nodes := by
  rcases deleteRelationship_cases s id with ⟨e, heq⟩ | heq
  · exact absurd (congrArg Prod.fst (heq.symm.trans h)) (by simp)
  · obtain ⟨-, rfl⟩ := Prod.mk.inj (heq.symm.trans h)
    exact ⟨OrderedMap.entries_foldl_erase s.relationships [id], rfl⟩

theorem taken_of_importSnapshot {g : Snapshot} {counts : Nat × Nat}
    (h : s.importSnapshot g = (.ok counts, t)) : s.Admits g ∧ t = s.takeSnapshot g := by
  rcases importSnapshot_cases s g with ⟨e, -, heq⟩ | ⟨hadmits, heq⟩
  · exact absurd (congrArg Prod.fst (heq.symm.trans h)) (by simp)
  · exact ⟨hadmits, (Prod.mk.inj (heq.symm.trans h)).2.symm⟩

/-! ## Descent along calls -/

/-- An answer that is no refusal is a result. -/
theorem exists_ok {ε α : Type} {refuse : ε → Refusal} {answer : Except ε α}
    (h : Refusal.of? refuse answer = none) : ∃ a, answer = .ok a := by
  cases answer with
  | ok a => exact ⟨a, rfl⟩
  | error e => exact absurd h (by simp [Refusal.of?])

theorem reported_of_refused {ε α : Type} {refuse : ε → Refusal} {answer : Except ε α}
    {told : α → List Edit} {r : Refusal} (h : Refusal.of? refuse answer = some r) :
    reported told answer = [] := by
  cases answer with
  | ok a => exact absurd h (by simp [Refusal.of?])
  | error e => rfl

/-- A refused call, other than a batch, tells of no edits. -/
theorem edits_of_refused {c : Call} {supply : Supply} {r : Refusal} (hc : c.isBatch = false)
    (h : (s.call supply c).1 = some r) : s.edits supply c = [] := by
  cases c with
  | clear => exact absurd h (by simp [call])
  | checkSnapshot g replace => rfl
  | runBatch rules text => exact absurd hc (by simp [Call.isBatch])
  | restore a blob =>
    rw [call, restore] at h
    rw [edits]
    cases hload : a.load blob with
    | error f => rfl
    | ok g =>
      rw [hload] at h
      dsimp only at h ⊢
      cases hreplace : (s.replaceWith g).1 with
      | error e => rfl
      | ok counts =>
        rw [hreplace] at h
        exact absurd h (by simp [Refusal.of?, Except.mapError])
  | _ => exact reported_of_refused h

theorem kind_appends {kind : ElementKind} {ids : List String} :
    ∀ e ∈ Edit.appends kind ids, e.kind = kind := by
  intro e he
  obtain ⟨id, -, rfl⟩ := List.mem_map.mp he
  rfl

theorem kind_removes {kind : ElementKind} {ids : List String} :
    ∀ e ∈ Edit.removes kind ids, e.kind = kind := by
  intro e he
  obtain ⟨id, -, rfl⟩ := List.mem_map.mp he
  rfl

theorem descends_clear (s : Store) : s.Descends s.removals s.clear := by
  -- first the nodes go, then the relationships
  let mid : Store := { s with nodes := ∅ }
  have hn : s.Descends (Edit.removes .node s.nodes.keys) mid :=
    .ofNodes kind_removes (.clear s.nodes) rfl
  have hr : mid.Descends (Edit.removes .relationship s.relationships.keys) s.clear :=
    .ofRelationships kind_removes rfl (.clear s.relationships)
  exact hn.trans hr

theorem descends_takeSnapshot {g : Snapshot} (h : s.Admits g) :
    s.Descends g.appends (s.takeSnapshot g) := by
  let mid : Store := { s with nodes := (s.takeSnapshot g).nodes }
  have hn : s.Descends (Edit.appends .node (g.nodes.map Node.id)) mid := by
    refine .ofNodes kind_appends ?_ rfl
    rw [entries_nodes_takeSnapshot h]
    exact .appendAll Node.id s.nodes.entries g.nodes
  have hr : mid.Descends (Edit.appends .relationship (g.relationships.map Relationship.id))
      (s.takeSnapshot g) := by
    refine .ofRelationships kind_appends rfl ?_
    rw [entries_relationships_takeSnapshot h]
    exact .appendAll Relationship.id s.relationships.entries g.relationships
  exact hn.trans hr

theorem descends_of_createNode {draft : NodeDraft} {supply rest : Supply} {id : String}
    (h : s.createNode draft supply = (.ok id, t, rest)) :
    s.Descends [⟨.node, .append, id⟩] t := by
  obtain ⟨-, ⟨n, -, hn⟩, hr⟩ := appended_of_createNode h
  refine .ofNodes (by simp) ?_ hr
  rw [hn]
  exact .append s.nodes.entries [(id, n)]

theorem descends_of_createRelationship {draft : RelationshipDraft} {supply rest : Supply}
    {id : String} (h : s.createRelationship draft supply = (.ok id, t, rest)) :
    s.Descends [⟨.relationship, .append, id⟩] t := by
  obtain ⟨-, ⟨r, -, hr⟩, hn⟩ := appended_of_createRelationship h
  refine .ofRelationships (by simp) hn ?_
  rw [hr]
  exact .append s.relationships.entries [(id, r)]

theorem descends_of_updateNode (hs : s.Sound) {id : String} {change : NodeChange}
    {supply rest : Supply} {n : Node} (h : s.updateNode id change supply = (.ok n, t, rest)) :
    s.Descends [⟨.node, .amend, id⟩] t := by
  obtain ⟨⟨before, m, after, hbefore, hafter, hlasting⟩, hr⟩ := amended_of_updateNode hs h
  refine .ofNodes (by simp) ?_ hr
  rw [hbefore, hafter]
  exact .amend hlasting

theorem descends_of_updateRelationship (hs : s.Sound) {id : String}
    {change : RelationshipChange} {supply rest : Supply} {r : Relationship}
    (h : s.updateRelationship id change supply = (.ok r, t, rest)) :
    s.Descends [⟨.relationship, .amend, id⟩] t := by
  obtain ⟨⟨before, q, after, hbefore, hafter, hlasting⟩, hn⟩ :=
    amended_of_updateRelationship hs h
  refine .ofRelationships (by simp) hn ?_
  rw [hbefore, hafter]
  exact .amend hlasting

theorem descends_of_deleteNode {id : String} {touching : List String}
    (h : s.deleteNode id = (.ok touching, t)) :
    s.Descends (⟨.node, .remove, id⟩ :: Edit.removes .relationship touching) t := by
  obtain ⟨-, -, hn, hr⟩ := removed_of_deleteNode h
  -- halfway the node is gone and its relationships are not
  let mid : Store := { s with nodes := t.nodes }
  have hfirst : s.Descends (Edit.removes .node [id]) mid := by
    refine .ofNodes kind_removes ?_ rfl
    rw [hn]
    exact .remove [id] s.nodes.entries
  have hrest : mid.Descends (Edit.removes .relationship touching) t := by
    refine .ofRelationships kind_removes rfl ?_
    rw [hr]
    exact .remove touching s.relationships.entries
  exact hfirst.trans hrest

theorem descends_of_deleteRelationship {id : String}
    (h : s.deleteRelationship id = (.ok (), t)) :
    s.Descends [⟨.relationship, .remove, id⟩] t := by
  obtain ⟨hr, hn⟩ := removed_of_deleteRelationship h
  refine .ofRelationships (by simp) hn ?_
  rw [hr]
  exact .remove [id] s.relationships.entries

theorem descends_of_importSnapshot {g : Snapshot} {counts : Nat × Nat}
    (h : s.importSnapshot g = (.ok counts, t)) : s.Descends g.appends t := by
  obtain ⟨hadmits, rfl⟩ := taken_of_importSnapshot h
  exact descends_takeSnapshot hadmits

theorem descends_restore (s : Store) (supply : Supply) (a : Archive) (blob : String) :
    s.Descends (s.edits supply (.restore a blob)) (s.restore a blob).2 := by
  rw [edits, restore]
  cases a.load blob with
  | error f => exact .unchanged rfl rfl
  | ok g =>
    dsimp only
    rcases replaceWith_cases s g with ⟨e, -, heq⟩ | ⟨hadmits, heq⟩
    · rw [heq]
      exact .unchanged rfl rfl
    · rw [heq]
      exact s.descends_clear.trans (descends_takeSnapshot hadmits)

/-- What an answer that is no refusal tells of is told of its result. -/
theorem descends_of_answer {ε α : Type} {refuse : ε → Refusal} {answer : Except ε α}
    {told : α → List Edit} (hanswer : Refusal.of? refuse answer = none)
    (h : ∀ a, answer = .ok a → s.Descends (told a) t) : s.Descends (reported told answer) t := by
  obtain ⟨a, rfl⟩ := exists_ok hanswer
  exact h a rfl

/-- **Every call other than a batch does what it tells.** -/
theorem descends_of_not_batch (hs : s.Sound) {c : Call} (hc : c.isBatch = false)
    (supply : Supply) : s.Descends (s.edits supply c) (s.call supply c).2.1 := by
  cases hcall : (s.call supply c).1 with
  | some r =>
    -- a refused call tells of nothing, and leaves everything as it was
    have hspares := spares_call hc hcall
    rw [edits_of_refused hc hcall]
    exact .unchanged hspares.nodes hspares.relationships
  | none =>
    cases c with
    | createNode draft =>
      exact descends_of_answer hcall fun id hok => descends_of_createNode (Prod.ext hok rfl)
    | updateNode id change =>
      exact descends_of_answer hcall fun n hok => descends_of_updateNode hs (Prod.ext hok rfl)
    | deleteNode id =>
      exact descends_of_answer hcall fun touching hok =>
        descends_of_deleteNode (Prod.ext hok rfl)
    | createRelationship draft =>
      exact descends_of_answer hcall fun id hok =>
        descends_of_createRelationship (Prod.ext hok rfl)
    | updateRelationship id change =>
      exact descends_of_answer hcall fun r hok =>
        descends_of_updateRelationship hs (Prod.ext hok rfl)
    | deleteRelationship id =>
      exact descends_of_answer hcall fun u hok =>
        descends_of_deleteRelationship (Prod.ext hok rfl)
    | clear => exact s.descends_clear
    | checkSnapshot g replace => exact .unchanged rfl rfl
    | importSnapshot g =>
      exact descends_of_answer hcall fun counts hok =>
        descends_of_importSnapshot (Prod.ext hok rfl)
    | restore a blob => exact s.descends_restore supply a blob
    | runBatch rules text => exact absurd hc (by simp [Call.isBatch])

/-! ## Descent along batches -/

theorem recordedStep_fst (state : (Store × Supply) × List Edit) (c : Command) :
    (recordedStep state c).1 = (step state.1 c).1
      ∧ (recordedStep state c).2.1 = (step state.1 c).2 := ⟨rfl, rfl⟩

/-- A command does what its outcome tells. -/
theorem descends_step (s : Store) (supply : Supply) (c : Command) :
    s.Descends (reported s.toldBy (step (s, supply) c).1) (step (s, supply) c).2.1 := by
  rcases hstep : step (s, supply) c with ⟨answer, t, rest⟩
  cases answer with
  | error e =>
    obtain ⟨hn, hr⟩ := step_refused hstep
    exact .unchanged hn hr
  | ok o =>
    unfold step execute at hstep
    cases hc : c.action with
    | create name type properties =>
      rw [hc] at hstep
      dsimp only at hstep
      split at hstep
      · exact absurd (congrArg Prod.fst hstep) (by simp)
      · rename_i id left supply' hcreate
        obtain ⟨ho, hleft⟩ := Prod.mk.inj hstep
        obtain rfl := Except.ok.inj ho
        obtain rfl := (Prod.mk.inj hleft).1
        exact descends_of_createNode hcreate
    | clear =>
      rw [hc] at hstep
      obtain ⟨ho, hleft⟩ := Prod.mk.inj hstep
      obtain rfl := Except.ok.inj ho
      obtain rfl := (Prod.mk.inj hleft).1
      exact s.descends_clear
    | _ =>
      -- a selection leaves the store alone
      rw [hc] at hstep
      obtain ⟨ho, hleft⟩ := Prod.mk.inj hstep
      obtain rfl := Except.ok.inj ho
      obtain rfl := (Prod.mk.inj hleft).1
      unfold Snapshot.execute
      rw [hc]
      exact .unchanged rfl rfl

theorem descends_runBatch (s : Store) (supply : Supply) (rules : BatchRules) (text : String) :
    s.Descends (s.edits supply (.runBatch rules text)) (s.runBatch rules text supply).2.1 := by
  show s.Descends (Batch.run rules recordedStep ((s, supply), []) text).2.2
    (Batch.run rules step (s, supply) text).2.1
  -- recording changes nothing else, so the run that records can be looked at instead
  rw [← (Batch.run_recorded recordedStep_fst rules text ((s, supply), [])).2]
  refine Batch.run_preserves (P := fun state => s.Descends state.2 state.1.1) ?_ rules text
    ((s, supply), []) (.unchanged rfl rfl)
  intro state c h
  exact h.trans (descends_step state.1.1 state.1.2 c)

/-! ## Runs -/

/-- **Every call does what it tells.** -/
theorem descends_call (hs : s.Sound) (supply : Supply) (c : Call) :
    s.Descends (s.edits supply c) (s.call supply c).2.1 := by
  cases hc : c.isBatch with
  | false => exact descends_of_not_batch hs hc supply
  | true =>
    cases c with
    | runBatch rules text => exact s.descends_runBatch supply rules text
    | _ => exact absurd hc (by simp [Call.isBatch])

theorem after_append (s : Store) (cs ds : List (Supply × Call)) :
    s.after (cs ++ ds) = (s.after cs).after ds := List.foldl_append

theorem Sound.after (hs : s.Sound) {cs : List (Supply × Call)} (hcs : ∀ x ∈ cs, x.2.Proper) :
    (s.after cs).Sound := by
  induction cs generalizing s with
  | nil => exact hs
  | cons x cs ih =>
    have hnext := sound_call hs x.1 x.2 (hcs x List.mem_cons_self)
    exact ih hnext fun x' hx' => hcs x' (List.mem_cons_of_mem _ hx')

theorem descends_after (hs : s.Sound) {cs : List (Supply × Call)} (hcs : ∀ x ∈ cs, x.2.Proper) :
    s.Descends (s.trail cs) (s.after cs) := by
  induction cs generalizing s with
  | nil => exact .unchanged rfl rfl
  | cons x cs ih =>
    have hnext := sound_call hs x.1 x.2 (hcs x List.mem_cons_self)
    have hrest := ih hnext fun x' hx' => hcs x' (List.mem_cons_of_mem _ hx')
    exact (descends_call hs x.1 x.2).trans hrest

/-- A store whose elements come, change and go in an orderly way. -/
structure Orderly (s : Store) : Prop where
  /-- A created node comes last, under an id that no node had. -/
  createNode : ∀ draft supply id t rest, s.createNode draft supply = (.ok id, t, rest) →
    id ∉ s.nodes.keys ∧ (∃ n, n.id = id ∧ t.nodes.entries = s.nodes.entries ++ [(id, n)])
      ∧ t.relationships = s.relationships
  /-- So does a relationship. -/
  createRelationship : ∀ draft supply id t rest,
    s.createRelationship draft supply = (.ok id, t, rest) →
      id ∉ s.relationships.keys
        ∧ (∃ r, r.id = id ∧ t.relationships.entries = s.relationships.entries ++ [(id, r)])
        ∧ t.nodes = s.nodes
  /-- An updated node stays where it was, with its id, its type and the date of its creation. -/
  updateNode : ∀ id change supply n' t rest, s.updateNode id change supply = (.ok n', t, rest) →
    (∃ before n after, s.nodes.entries = before ++ (id, n) :: after
        ∧ t.nodes.entries = before ++ (id, n') :: after ∧ n'.lasting = n.lasting)
      ∧ t.relationships = s.relationships
  /-- So does a relationship, which also keeps its ends. -/
  updateRelationship : ∀ id change supply r' t rest,
    s.updateRelationship id change supply = (.ok r', t, rest) →
      (∃ before r after, s.relationships.entries = before ++ (id, r) :: after
          ∧ t.relationships.entries = before ++ (id, r') :: after ∧ r'.lasting = r.lasting)
        ∧ t.nodes = s.nodes
  /-- With a node go the relationships that touch it; all others stay in their order. -/
  deleteNode : ∀ id touching t, s.deleteNode id = (.ok touching, t) →
    id ∈ s.nodes.keys ∧ t.nodes.entries = s.nodes.entries.filter (fun e => e.1 ≠ id)
      ∧ t.relationships.entries = s.relationships.entries.filter (fun e => !e.2.touches id)
  /-- A relationship goes alone. -/
  deleteRelationship : ∀ id t, s.deleteRelationship id = (.ok (), t) →
    t.relationships.entries = s.relationships.entries.filter (fun e => e.1 ≠ id)
      ∧ t.nodes = s.nodes
  /-- The elements of a snapshot come last, in its order, under ids that were not in use. -/
  importSnapshot : ∀ g counts t, s.importSnapshot g = (.ok counts, t) →
    s.Admits g ∧ t.nodes.entries = s.nodes.entries ++ g.nodes.map (fun n => (n.id, n))
      ∧ t.relationships.entries
        = s.relationships.entries ++ g.relationships.map fun r => (r.id, r)
  /-- In every part of a run, all that happens to elements is what the calls tell of. -/
  runs : ∀ cs ds : List (Supply × Call), (∀ x ∈ cs ++ ds, x.2.Proper) →
    (s.after cs).Descends ((s.after cs).trail ds) (s.after (cs ++ ds))
  /-- At no point of a run do two elements have one id. -/
  distinct : ∀ cs : List (Supply × Call), (∀ x ∈ cs, x.2.Proper) →
    ((s.after cs).nodes.values.map Node.id).Nodup
      ∧ ((s.after cs).relationships.values.map Relationship.id).Nodup

/--
**Stores only append, amend in place and remove.** Nothing is overwritten, lost, doubled or moved
but by a call that says so, and what lasts of an element is the same as long as it is there.
-/
theorem orderly_of_reachable (h : Reachable s) : s.Orderly where
  createNode _ _ _ _ _ := appended_of_createNode
  createRelationship _ _ _ _ _ := appended_of_createRelationship
  updateNode _ _ _ _ _ _ := amended_of_updateNode (sound_of_reachable h)
  updateRelationship _ _ _ _ _ _ := amended_of_updateRelationship (sound_of_reachable h)
  deleteNode id touching t hdelete := by
    obtain ⟨hid, rfl, hn, hr⟩ := removed_of_deleteNode hdelete
    refine ⟨hid, by simpa using hn, ?_⟩
    -- the ids that are answered are those of the relationships that touch the node
    rw [hr]
    refine List.filter_congr fun e he => ?_
    rw [decide_not, Bool.eq_iff_iff.mpr (decide_eq_true_iff.trans (mem_incidentIds he))]
  deleteRelationship id t hdelete := by
    obtain ⟨hr, hn⟩ := removed_of_deleteRelationship hdelete
    exact ⟨by simpa using hr, hn⟩
  importSnapshot g counts t himport := by
    obtain ⟨hadmits, rfl⟩ := taken_of_importSnapshot himport
    exact ⟨hadmits, entries_nodes_takeSnapshot hadmits,
      entries_relationships_takeSnapshot hadmits⟩
  runs cs ds hproper := by
    have hs := (sound_of_reachable h).after fun x hx => hproper x (List.mem_append_left _ hx)
    rw [after_append]
    exact descends_after hs fun x hx => hproper x (List.mem_append_right _ hx)
  distinct cs hproper := by
    have hs := (sound_of_reachable h).after hproper
    rw [hs.nodeIds_eq, hs.relationshipIds_eq]
    exact ⟨(s.after cs).nodes.nodup_keys, (s.after cs).relationships.nodup_keys⟩

/-- Two nodes that are joined both ways, and one with a self-loop. -/
theorem orderly_of_reachable_sample :
    Reachable (sample ⟨true, true⟩) ∧ (sample ⟨true, true⟩).nodes.keys = ["a", "b", "c"]
      ∧ (sample ⟨true, true⟩).Orderly :=
  ⟨Reachable.sample ⟨true, true⟩, by decide, orderly_of_reachable (Reachable.sample ⟨true, true⟩)⟩

end Store

end PropertyGraph
