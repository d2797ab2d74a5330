import Mathlib.Data.List.DropRight
import PropertyGraph.Proofs.BatchComposition
import PropertyGraph.Proofs.CommandLine
import PropertyGraph.Proofs.OrderedMap
import PropertyGraph.Proofs.Recheck
import PropertyGraph.Proofs.Tally

/-!
# What the lines of a batch see

The graph that a line of a batch finds can be told from the outcomes of the lines before it: it is
the graph at the start, or nothing if that has been cleared, and then one node for each creation
since, as its outcome reports it. `Snapshot.Leaves` says this of a list of outcomes, and `Effect`
says what one command finds, answers and leaves. A run of lines is one effect after the other.

A creation reports what its line asks for, while its node has been through the checks. These trim
the type, so that the two agree is a fact about lines: what names a type there are word characters,
and none of them is a blank.
-/

namespace PropertyGraph

open Text

/-! ## Types on lines -/

/-- The type of a node to create is a name. -/
def Action.Worded : Action → Prop
  | .create _ type _ => ∀ c ∈ type.toList, isWord c = true
  | _ => True

namespace Shape

theorem isWord_splitName (s : List Char) : ∀ c ∈ (splitName s).1.toList, isWord c = true := by
  unfold splitName
  rw [String.toList_ofList]
  exact fun c hc => List.mem_takeWhile_imp hc

theorem isWord_nodeHead? {s r : List Char} {n : Option String} {type : String}
    (h : Reading.nodeHead? s = some (n, type, r)) : ∀ c ∈ type.toList, isWord c = true := by
  unfold Reading.nodeHead? at h
  split at h
  · obtain ⟨⟨type', r'⟩, hname, h⟩ := Option.map_eq_some_iff.mp h
    have hsplit := (Grammar.name?_eq_some_iff.mp hname).1
    obtain rfl : type' = type := congrArg (fun p => p.2.1) h
    rw [show type' = (splitName _).1 from congrArg Prod.fst hsplit.symm]
    exact isWord_splitName _
  · split at h
    · exact absurd h (by simp)
    · obtain rfl : (splitName s).1 = type := congrArg (fun p => p.2.1) (Option.some.inj h)
      exact isWord_splitName s

theorem worded_readCreate {line : String} {a : Action} (h : readCreate line = .ok (some a)) :
    a.Worded := by
  unfold readCreate at h
  split at h
  · exact absurd h (by simp)
  · split at h
    · exact absurd h (by simp)
    · split at h
      · exact absurd h (by simp)
      · rename_i n type literal hnode
        obtain ⟨ps, -, h⟩ := bind_eq_ok_iff.mp h
        obtain rfl := Option.some.inj (Except.ok.inj h)
        obtain ⟨_, _, _, hhead, _⟩ := Reading.createdNode?_eq_some_iff.mp hnode
        exact isWord_nodeHead? hhead

/-- Whatever shapes a line is tried on, only the one of creations makes it a creation. -/
theorem readCreate_of_read? {shape : Shape} {line name type : String} {ps : Properties}
    (h : shape.read? line = .ok (some (.create name type ps))) :
    readCreate line = .ok (some (.create name type ps)) := by
  cases shape with
  | create => exact h
  | nodes =>
    obtain ⟨n, type, returns, -, heq⟩ := readNodes_eq_some_iff.mp (Except.ok.inj h)
    exact absurd heq (by simp)
  | allNodes =>
    obtain ⟨n, -, heq⟩ := readAllNodes_eq_some_iff.mp (Except.ok.inj h)
    exact absurd heq (by simp)
  | relationships =>
    obtain ⟨source, n, type, target, returns, -, heq⟩ :=
      readRelationships_eq_some_iff.mp (Except.ok.inj h)
    exact absurd heq (by simp)
  | clear =>
    obtain ⟨-, heq⟩ := readClear_eq_some_iff.mp (Except.ok.inj h)
    exact absurd heq (by simp)

theorem readCreate_of_readFirst {shapes : List Shape} {line name type : String}
    {ps : Properties} (h : readFirst line shapes = .ok (.create name type ps)) :
    readCreate line = .ok (some (.create name type ps)) := by
  induction shapes with
  | nil => exact absurd (Except.ok.inj h) (by simp)
  | cons shape shapes ih =>
    rw [readFirst_cons] at h
    split at h
    · exact absurd h (by simp)
    · rename_i a' hread
      obtain rfl := Except.ok.inj h
      exact readCreate_of_read? hread
    · exact ih h

end Shape

theorem Command.readCreate_of_parse {shapes : List Shape} {line name type : String}
    {ps : Properties} {c : Command} (h : parse shapes line = .ok c)
    (hc : c.action = .create name type ps) :
    Shape.readCreate (trim line) = .ok (some (.create name type ps)) := by
  unfold parse at h
  dsimp only at h
  split at h
  · exact absurd h (by simp)
  · obtain ⟨a, ha, h⟩ := bind_eq_ok_iff.mp h
    obtain rfl := Except.ok.inj h
    obtain rfl : a = .create name type ps := hc
    exact Shape.readCreate_of_readFirst ha

theorem Command.worded_parse {shapes : List Shape} {line : String} {c : Command}
    (h : parse shapes line = .ok c) : c.action.Worded := by
  cases hc : c.action with
  | create name type ps => exact Shape.worded_readCreate (readCreate_of_parse h hc)
  | _ => trivial

/-- A name has no blanks that could be trimmed. -/
theorem trim_of_word {s : String} (h : ∀ c ∈ s.toList, isWord c = true) : trim s = s :=
  trim_of_trimmed (trimmed_of_forall fun c hc => not_blank_of_word (h c hc))

/-! ## Effects of commands -/

/-- The document of a selection lists what was found, and says how much that is. -/
def Payload.Lists (p : Payload) (key : String) (summaries : List Document) : Prop :=
  ∀ line, (p.toDocument line).get? key = some (.list summaries)
    ∧ (p.toDocument line).get? "count" = some (.int summaries.length)

theorem Payload.lists_nodes (pattern returns : String) (found : List Node) :
    (nodes pattern found returns).Lists "matchedNodes" (found.map Node.summary) := by
  intro line
  rw [List.length_map]
  exact ⟨rfl, rfl⟩

theorem Payload.lists_relationships (pattern returns : String) (found : List Relationship) :
    (relationships pattern found returns).Lists "matchedRelationships"
      (found.map Relationship.summary) := by
  intro line
  rw [List.length_map]
  exact ⟨rfl, rfl⟩

namespace Outcome

def creates (o : Outcome) : Bool :=
  match o.payload with
  | .created .. => true
  | _ => false

def clears (o : Outcome) : Bool :=
  match o.payload with
  | .cleared => true
  | _ => false

/-- The outcome of a creation reports a node: its id, its type and its properties. -/
def Reports (o : Outcome) (n : Node) : Prop :=
  ∃ name, o.payload = .created n.id name n.type n.properties

/-- The outcomes after the last that cleared the graph; if none did, all. -/
def sinceClear (os : List Outcome) : List Outcome := os.rtakeWhile fun o => !o.clears

end Outcome

namespace Snapshot

/-- What the lines of a batch leave of a graph, told from their outcomes. -/
structure Leaves (g : Snapshot) (os : List Outcome) (left : Snapshot) : Prop where
  /-- The nodes that were there, unless they were cleared, and one for each creation since. -/
  nodes : ∃ created, left.nodes = (if os.any Outcome.clears then [] else g.nodes) ++ created
    ∧ List.Forall₂ Outcome.Reports ((Outcome.sinceClear os).filter Outcome.creates) created
  /-- The relationships that were there, unless they were cleared. -/
  relationships : left.relationships = if os.any Outcome.clears then [] else g.relationships

end Snapshot

namespace Store

/-- What a command that is done finds in a store, answers and leaves. -/
inductive Effect (s : Store) : Action → Payload → Store → Prop where
  /-- A creation adds one node, and reports it. -/
  | create {name type : String} {properties : Properties} {n : Node} {t : Store}
      (htype : n.type = type) (hproperties : n.properties = properties)
      (hnodes : t.snapshot.nodes = s.snapshot.nodes ++ [n])
      (hrelationships : t.snapshot.relationships = s.snapshot.relationships) :
      Effect s (.create name type properties) (.created n.id name type properties) t
  /-- A clearing removes everything. -/
  | clear : Effect s .clear .cleared s.clear
  /-- A selection of nodes lists those of its type, or all, and changes nothing. -/
  | selectNodes {name pattern returns : String} {type : Option String} {found : List Node}
      (hfound : found = s.snapshot.nodes.filter fun n => type.all (n.type == ·))
      (hlists : (Payload.nodes pattern found returns).Lists "matchedNodes"
        (found.map Node.summary)) :
      Effect s (.selectNodes name type returns) (.nodes pattern found returns) s
  /-- A selection of all nodes lists all, and changes nothing. -/
  | selectAllNodes {pattern returns : String}
      (hlists : (Payload.nodes pattern s.snapshot.nodes returns).Lists "matchedNodes"
        (s.snapshot.nodes.map Node.summary)) :
      Effect s .selectAllNodes (.nodes pattern s.snapshot.nodes returns) s
  /-- A selection of relationships lists those of its type, or all, and changes nothing. -/
  | selectRelationships {p : RelationshipPattern} {pattern : String} {found : List Relationship}
      (hfound : found = s.snapshot.relationships.filter fun r => p.type.all (r.type == ·))
      (hlists : (Payload.relationships pattern found p.returns).Lists "matchedRelationships"
        (found.map Relationship.summary)) :
      Effect s (.selectRelationships p) (.relationships pattern found p.returns) s
  /-- A line that is not understood changes nothing. -/
  | unknown : Effect s .unknown .unknown s

theorem values_putNode {s : Store} {n : Node} (h : s.hasNode n.id = false) :
    (s.putNode n).snapshot.nodes = s.snapshot.nodes ++ [n] := by
  show (s.nodes.insert n.id n).values = s.nodes.values ++ [n]
  unfold OrderedMap.values
  rw [OrderedMap.entries_insert_of_not_mem (OrderedMap.contains_eq_false_iff.mp h),
    List.map_append, List.map_singleton]

/-- A node that is created from a name and a property map is of that type and has that map. -/
theorem exists_of_createNode {s t : Store} {supply rest : Supply} {id type : String}
    {properties : Properties} (hword : ∀ c ∈ type.toList, isWord c = true)
    (h : s.createNode
        ⟨.text type, properties.entries.map fun e => (e.1, Document.scalar e.2), [], none⟩ supply
      = (.ok id, t, rest)) :
    ∃ n, n.id = id ∧ n.type = type ∧ n.properties = properties
      ∧ t.snapshot.nodes = s.snapshot.nodes ++ [n]
      ∧ t.snapshot.relationships = s.snapshot.relationships := by
  rcases createNode_cases s ⟨.text type, _, [], none⟩ supply with
    ⟨e, tokens, hcreate⟩ | ⟨vs, tokens, hcreate⟩ | ⟨type', tokens, n, htext, hid, hn, hcreate⟩
  · rw [hcreate] at h
    exact absurd (congrArg Prod.fst h) (by simp)
  · rw [hcreate] at h
    exact absurd (congrArg Prod.fst h) (by simp)
  · rw [hcreate] at h
    obtain ⟨hn', hleft⟩ := Prod.mk.inj h
    obtain rfl := (Prod.mk.inj hleft).1
    obtain ⟨-, ⟨-, htype⟩, hproperties, -⟩ := Node.check_eq_accepted.mp hn
    refine ⟨n, Except.ok.inj hn', ?_, ?_, values_putNode (not_taken_of_newId hid), rfl⟩
    · -- the draft's type is the one given, and trimming does not change it
      have hsame : type = type' := by
        unfold draftType? at htext
        dsimp only at htext
        split at htext
        · exact absurd htext (by simp)
        · exact Option.some.inj htext
      rw [← htype, ← hsame]
      exact trim_of_word hword
    · have hchecked := (Properties.check_eq_accepted.mp hproperties).2
      rw [← hchecked]
      show OrderedMap.ofList ((OrderedMap.ofList properties.toEntries).entries.filterMap _) = _
      rw [Properties.ofList_toEntries, Properties.scalars_toEntries, OrderedMap.ofList_entries]

/-- A command that does not change the graph selects from it, or is not understood. -/
theorem effect_of_select {s : Store} {a : Action} {p : Payload}
    (h : s.snapshot.select? a = some p) : s.Effect a p s := by
  cases a with
  | create name type properties => exact absurd h (by simp [Snapshot.select?])
  | clear => exact absurd h (by simp [Snapshot.select?])
  | selectNodes name type returns =>
    rw [← Option.some.inj h]
    exact .selectNodes rfl (Payload.lists_nodes _ _ _)
  | selectAllNodes =>
    rw [← Option.some.inj h]
    have hall : s.snapshot.nodesOfType none = s.snapshot.nodes :=
      List.filter_eq_self.mpr fun _ _ => rfl
    rw [hall]
    exact .selectAllNodes (Payload.lists_nodes _ _ _)
  | selectRelationships p =>
    rw [← Option.some.inj h]
    exact .selectRelationships rfl (Payload.lists_relationships _ _ _)
  | unknown =>
    rw [← Option.some.inj h]
    exact .unknown

/-- **A command that is read off a line and done has its effect.** -/
theorem effect_of_step {s t : Store} {supply rest : Supply} {c : Command} {o : Outcome}
    (hc : c.action.Worded) (h : step (s, supply) c = (.ok o, t, rest)) :
    o.command = c ∧ s.Effect c.action o.payload t := by
  unfold step execute at h
  cases haction : c.action with
  | create name type properties =>
    rw [haction] at h hc
    dsimp only at h
    split at h
    · exact absurd (congrArg Prod.fst h) (by simp)
    · rename_i id left supply' hcreate
      obtain ⟨ho, hleft⟩ := Prod.mk.inj h
      obtain rfl := Except.ok.inj ho
      obtain rfl := (Prod.mk.inj hleft).1
      obtain ⟨n, rfl, htype, hproperties, hnodes, hrels⟩ := exists_of_createNode hc hcreate
      exact ⟨rfl, .create htype hproperties hnodes hrels⟩
  | clear =>
    rw [haction] at h
    obtain ⟨ho, hleft⟩ := Prod.mk.inj h
    obtain rfl := Except.ok.inj ho
    obtain rfl := (Prod.mk.inj hleft).1
    exact ⟨rfl, .clear⟩
  | _ =>
    rw [haction] at h
    obtain ⟨ho, hleft⟩ := Prod.mk.inj h
    obtain rfl := Except.ok.inj ho
    obtain rfl := (Prod.mk.inj hleft).1
    refine ⟨rfl, ?_⟩
    unfold Snapshot.execute
    rw [haction]
    exact effect_of_select rfl

end Store

/-! ## What outcomes tell -/

namespace Snapshot.Leaves

variable {g mid left : Snapshot} {os : List Outcome} {o : Outcome}

theorem nil (g : Snapshot) : g.Leaves [] g where
  nodes := ⟨[], (List.append_nil _).symm, .nil⟩
  relationships := rfl

/-- A clearing leaves nothing of what was there before. -/
theorem cleared (ho : o.clears = true) (hnodes : left.nodes = [])
    (hrels : left.relationships = []) : g.Leaves (os ++ [o]) left := by
  have hany : (os ++ [o]).any Outcome.clears = true := by simp [ho]
  have hsince : Outcome.sinceClear (os ++ [o]) = [] :=
    List.rtakeWhile_concat_neg _ _ _ (by simp [ho])
  constructor
  · rw [hany, hsince]
    exact ⟨[], hnodes, .nil⟩
  · rw [hany]
    exact hrels

theorem any_concat (ho : o.clears = false) :
    (os ++ [o]).any Outcome.clears = os.any Outcome.clears := by
  rw [List.any_append, List.any_cons, List.any_nil, ho, Bool.or_false, Bool.or_false]

theorem sinceClear_concat (ho : o.clears = false) :
    Outcome.sinceClear (os ++ [o]) = Outcome.sinceClear os ++ [o] :=
  List.rtakeWhile_concat_pos _ _ _ (by simp [ho])

/-- A creation leaves one node more, at the end. -/
theorem created (h : g.Leaves os mid) {n : Node} (ho : o.Reports n)
    (hnodes : left.nodes = mid.nodes ++ [n]) (hrels : left.relationships = mid.relationships) :
    g.Leaves (os ++ [o]) left := by
  obtain ⟨ns, hns, hall⟩ := h.nodes
  obtain ⟨name, hpayload⟩ := ho
  have hcreates : o.creates = true := by
    unfold Outcome.creates
    rw [hpayload]
  have hclears : o.clears = false := by
    unfold Outcome.clears
    rw [hpayload]
  constructor
  · rw [any_concat hclears, sinceClear_concat hclears, List.filter_append,
      List.filter_singleton, hcreates]
    refine ⟨ns ++ [n], ?_, List.rel_append hall (.cons ⟨name, hpayload⟩ .nil)⟩
    rw [hnodes, hns, List.append_assoc]
  · rw [any_concat hclears, hrels]
    exact h.relationships

/-- What is neither a creation nor a clearing leaves the graph as it was. -/
theorem unchanged (h : g.Leaves os mid) (hcreates : o.creates = false)
    (hclears : o.clears = false) : g.Leaves (os ++ [o]) mid := by
  constructor
  · rw [any_concat hclears, sinceClear_concat hclears, List.filter_append,
      List.filter_singleton, hcreates, cond_false, List.append_nil]
    exact h.nodes
  · rw [any_concat hclears]
    exact h.relationships

/-- What is left after a command is told by its outcome and those before it. -/
theorem step {s t : Store} {a : Action} (h : g.Leaves os s.snapshot)
    (heffect : s.Effect a o.payload t) : g.Leaves (os ++ [o]) t.snapshot := by
  have hcreates : o.creates = match o.payload with | .created .. => true | _ => false := rfl
  have hclears : o.clears = match o.payload with | .cleared => true | _ => false := rfl
  generalize hp : o.payload = p at heffect hcreates hclears
  cases heffect with
  | create htype hproperties hnodes hrels =>
    exact h.created ⟨_, by rw [hp, htype, hproperties]⟩ hnodes hrels
  | clear => exact cleared hclears rfl rfl
  | _ => exact h.unchanged hcreates hclears

end Snapshot.Leaves

/-! ## Runs -/

namespace Batch

variable {σ : Type} {shapes : List Shape} {step : σ → Command → Except GraphError Outcome × σ}

/-- A run that does not stop does its last line after the others. -/
theorem runLines_concat_ok {s s' : σ} {ls : List String} {line : String} {os : List Outcome}
    (h : runLines shapes step s (ls ++ [line]) = (.ok os, s')) :
    ∃ ps t c o, runLines shapes step s ls = (.ok ps, t) ∧ Command.parse shapes line = .ok c
      ∧ step t c = (.ok o, s') ∧ os = ps ++ [o] := by
  cases hrun : runLines shapes step s ls with
  | mk r t =>
    cases r with
    | error e =>
      rw [runLines_append_of_error hrun] at h
      exact absurd (congrArg Prod.fst h) (by simp)
    | ok ps =>
      rw [runLines_append_of_ok hrun] at h
      cases hline : runLines shapes step t [line] with
      | mk q t' =>
        rw [hline] at h
        cases q with
        | error e => exact absurd (congrArg Prod.fst h) (by simp [Except.map])
        | ok qs =>
          obtain ⟨hos, rfl⟩ := Prod.mk.inj h
          obtain ⟨c, o, u, rest, hparse, hstep, hnil, rfl⟩ := runLines_cons_ok hline
          obtain ⟨hrest, rfl⟩ := Prod.mk.inj hnil
          rw [← Except.ok.inj hrest] at hos
          exact ⟨ps, t, c, o, rfl, hparse, hstep, (Except.ok.inj hos).symm⟩

/-- A run that does not stop has done any number of its first lines. -/
theorem runLines_take_ok {s s' : σ} {ls : List String} {os : List Outcome}
    (h : runLines shapes step s ls = (.ok os, s')) (i : Nat) :
    ∃ t, runLines shapes step s (ls.take i) = (.ok (os.take i), t) := by
  induction ls generalizing s os i with
  | nil =>
    rw [← Except.ok.inj (congrArg Prod.fst h), List.take_nil, List.take_nil]
    exact ⟨s, rfl⟩
  | cons line ls ih =>
    obtain ⟨c, o, t, ps, hparse, hstep, hrest, rfl⟩ := runLines_cons_ok h
    cases i with
    | zero => exact ⟨s, rfl⟩
    | succ i =>
      obtain ⟨u, hu⟩ := ih hrest i
      refine ⟨u, ?_⟩
      rw [List.take_succ_cons, List.take_succ_cons, runLines_cons hparse hstep, hu]
      rfl

end Batch

/-! ## Statistics -/

/-- Statistics that say how many elements of which type a graph has. -/
structure Stats.Describes (st : Stats) (g : Snapshot) : Prop where
  nodeCount : st.nodeCount = g.nodes.length
  relationshipCount : st.relationshipCount = g.relationships.length
  /-- The types of nodes that occur are counted. -/
  nodeTypes : ∀ type k, (type, k) ∈ st.nodeTypes.entries
    ↔ 0 < k ∧ k = g.nodes.countP fun n => n.type == type
  /-- The types of relationships that occur are counted. -/
  relationshipTypes : ∀ type k, (type, k) ∈ st.relationshipTypes.entries
    ↔ 0 < k ∧ k = g.relationships.countP fun r => r.type == type

theorem Store.stats_describes (s : Store) : s.stats.Describes s.snapshot where
  nodeCount := rfl
  relationshipCount := rfl
  nodeTypes type k := by
    show (type, k) ∈ (tally (s.nodes.values.map Node.type)).entries ↔ _
    rw [mem_entries_tally, List.count, List.countP_map]
    rfl
  relationshipTypes type k := by
    show (type, k) ∈ (tally (s.relationships.values.map Relationship.type)).entries ↔ _
    rw [mem_entries_tally, List.count, List.countP_map]
    rfl

namespace Store

open Batch

/-- What a run of lines has left is told by its outcomes. -/
theorem leaves_of_runLines {shapes : List Shape} {s t : Store} {supply rest : Supply}
    {ls : List String} {os : List Outcome}
    (h : runLines shapes step (s, supply) ls = (.ok os, t, rest)) :
    s.snapshot.Leaves os t.snapshot := by
  induction ls using List.reverseRecOn generalizing os t rest with
  | nil =>
    obtain ⟨hos, hleft⟩ := Prod.mk.inj h
    obtain rfl := (Prod.mk.inj hleft).1
    rw [← Except.ok.inj hos]
    exact .nil _
  | append_singleton ls line ih =>
    obtain ⟨ps, ⟨mid, midSupply⟩, c, o, hbefore, hparse, hstep, rfl⟩ := runLines_concat_ok h
    exact (ih hbefore).step (effect_of_step (Command.worded_parse hparse) hstep).2

/--
A batch has come as far as it has outcomes: its lines up to there are done, each with an outcome,
and have left a store.
-/
def ComesTo (s : Store) (rules : BatchRules) (text : String) (supply : Supply)
    (os : List Outcome) (mid : Store) : Prop :=
  ∃ rest, runLines rules.shapes step (s, supply) ((lines text).take os.length) = (.ok os, mid, rest)

/-- The course of a batch, by the outcomes of the lines that are done. -/
structure Course (s : Store) (rules : BatchRules) (text : String) (supply : Supply)
    (os : List Outcome) : Prop where
  /-- Wherever it comes to, the outcomes up to there tell what is left of the graph. -/
  reached : ∀ i ≤ os.length, ∃ mid, s.ComesTo rules text supply (os.take i) mid
    ∧ s.snapshot.Leaves (os.take i) mid.snapshot
  /-- Each line that is done has an effect on what the lines before it have left. -/
  answered : ∀ (i : Nat) (h : i < os.length), ∃ hl : i < (lines text).length, ∃ mid left,
    s.ComesTo rules text supply (os.take i) mid
      ∧ s.ComesTo rules text supply (os.take (i + 1)) left
      ∧ Command.parse rules.shapes (lines text)[i] = .ok os[i].command
      ∧ mid.Effect os[i].command.action os[i].payload left
  /-- The outcomes tell what is left in the end, whether or not the batch stops. -/
  leaves : s.snapshot.Leaves os (s.runBatch rules text supply).2.1.snapshot
  /-- A batch that does not stop has done all lines and counts what is left; one that does was too
  long to begin, or stops at the line after those that are done, reported or not. -/
  ends : match (s.runBatch rules text supply).1 with
    | .ok r => r.outcomes = os ∧ os.length = (lines text).length
      ∧ r.stats.Describes (s.runBatch rules text supply).2.1.snapshot
    | .error stop => rules.limit < (lines text).length ∧ os = []
      ∨ s.StopsAt rules supply text os.length (stop.map BatchFailure.cause)
        (s.runBatch rules text supply).2.1

theorem ComesTo.take {s t : Store} {rules : BatchRules} {text : String} {supply : Supply}
    {os : List Outcome} (h : s.ComesTo rules text supply os t) (i : Nat) :
    ∃ mid, s.ComesTo rules text supply (os.take i) mid := by
  obtain ⟨rest, h⟩ := h
  obtain ⟨⟨mid, midSupply⟩, hmid⟩ := runLines_take_ok h i
  refine ⟨mid, midSupply, ?_⟩
  rw [List.take_take] at hmid
  rw [List.length_take]
  exact hmid

theorem ComesTo.leaves {s t : Store} {rules : BatchRules} {text : String} {supply : Supply}
    {os : List Outcome} (h : s.ComesTo rules text supply os t) :
    s.snapshot.Leaves os t.snapshot := by
  obtain ⟨rest, h⟩ := h
  exact leaves_of_runLines h

theorem ComesTo.length_le {s t : Store} {rules : BatchRules} {text : String} {supply : Supply}
    {os : List Outcome} (h : s.ComesTo rules text supply os t) :
    os.length ≤ (lines text).length := by
  obtain ⟨rest, h⟩ := h
  have hlen := length_outcomes h
  rw [List.length_take] at hlen
  omega

/-- The last line that is done has an effect on what the others have left. -/
theorem ComesTo.last {s t : Store} {rules : BatchRules} {text : String} {supply : Supply}
    {os : List Outcome} {o : Outcome} (h : s.ComesTo rules text supply (os ++ [o]) t)
    (hl : os.length < (lines text).length) :
    ∃ mid, s.ComesTo rules text supply os mid
      ∧ Command.parse rules.shapes (lines text)[os.length] = .ok o.command
      ∧ mid.Effect o.command.action o.payload t := by
  obtain ⟨rest, h⟩ := h
  rw [List.length_append, List.length_singleton, ← List.take_append_getElem hl] at h
  obtain ⟨ps, ⟨mid, midSupply⟩, c, o', hbefore, hparse, hstep, heq⟩ := runLines_concat_ok h
  obtain ⟨rfl, hlast⟩ := List.append_inj' heq rfl
  obtain rfl : o = o' := List.head_eq_of_cons_eq hlast
  obtain ⟨rfl, heffect⟩ := effect_of_step (Command.worded_parse hparse) hstep
  exact ⟨mid, ⟨midSupply, hbefore⟩, hparse, heffect⟩

/-- Where a batch comes to has a course. -/
theorem ComesTo.course {s t : Store} {rules : BatchRules} {text : String} {supply : Supply}
    {os : List Outcome} (h : s.ComesTo rules text supply os t)
    (hleaves : s.snapshot.Leaves os (s.runBatch rules text supply).2.1.snapshot)
    (hends : match (s.runBatch rules text supply).1 with
      | .ok r => r.outcomes = os ∧ os.length = (lines text).length
        ∧ r.stats.Describes (s.runBatch rules text supply).2.1.snapshot
      | .error stop => rules.limit < (lines text).length ∧ os = []
        ∨ s.StopsAt rules supply text os.length (stop.map BatchFailure.cause)
          (s.runBatch rules text supply).2.1) :
    s.Course rules text supply os where
  reached i _ := by
    obtain ⟨mid, hmid⟩ := h.take i
    exact ⟨mid, hmid, hmid.leaves⟩
  answered i hi := by
    have hl : i < (lines text).length := Nat.lt_of_lt_of_le hi h.length_le
    obtain ⟨left, hleft⟩ := h.take (i + 1)
    have hlast := hleft
    rw [← List.take_append_getElem hi] at hlast
    have hlen : (os.take i).length = i := List.length_take_of_le (Nat.le_of_lt hi)
    obtain ⟨mid, hmid, hparse, heffect⟩ := hlast.last (by omega)
    simp only [hlen] at hparse
    exact ⟨hl, mid, left, hmid, hleft, hparse, heffect⟩
  leaves := hleaves
  ends := hends

/--
**Every line of a batch sees exactly the effects of the lines before it.** The outcomes of the lines
that are done tell the nodes and relationships that any of them finds, those that the batch leaves
when it ends or stops, and so what each selection lists.
-/
theorem exists_course (s : Store) (rules : BatchRules) (text : String) (supply : Supply) :
    ∃ os, s.Course rules text supply os := by
  by_cases hlong : rules.limit < (lines text).length
  · -- nothing is done of a batch that is too long
    have hrun : s.runBatch rules text supply = _ := runBatch_of_too_long hlong
    refine ⟨[], ComesTo.course (t := s) ⟨supply, rfl⟩ ?_ ?_⟩
    · rw [hrun]
      exact .nil _
    · rw [hrun]
      exact Or.inl ⟨hlong, rfl⟩
  · have hshort : (lines text).length ≤ rules.limit := Int.not_lt.mp hlong
    cases hrun : runLines rules.shapes step (s, supply) (lines text) with
    | mk r x =>
      obtain ⟨t, rest⟩ := x
      cases r with
      | ok os =>
        have hlen := length_outcomes hrun
        have hreach : s.ComesTo rules text supply os t := by
          refine ⟨rest, ?_⟩
          rw [hlen, List.take_length]
          exact hrun
        refine ⟨os, hreach.course ?_ ?_⟩
        · rw [runBatch_of_ok hshort hrun]
          exact hreach.leaves
        · rw [runBatch_of_ok hshort hrun]
          exact ⟨rfl, hlen, t.stats_describes⟩
      | error halt =>
        obtain ⟨k, hk, os, mid, midSupply, rest', hbefore, rfl, hat, hnodes, hrels⟩ :=
          exists_stopsAt hrun
        have hreach : s.ComesTo rules text supply os mid := ⟨midSupply, hbefore⟩
        have hleft : t.snapshot = mid.snapshot := by
          unfold snapshot
          rw [hnodes, hrels]
        refine ⟨os, hreach.course ?_ ?_⟩
        · rw [runBatch_of_error hshort hrun]
          show s.snapshot.Leaves os t.snapshot
          rw [hleft]
          exact hreach.leaves
        · rw [runBatch_of_error hshort hrun]
          dsimp only
          rw [cause_of_stop]
          exact Or.inr ⟨hk, os, mid, midSupply, rest', hbefore, rfl, hat, hnodes, hrels⟩

end Store

end PropertyGraph
