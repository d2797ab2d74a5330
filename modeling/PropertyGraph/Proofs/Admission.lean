import PropertyGraph.Proofs.Creatable
import PropertyGraph.Proofs.OneByOne
import PropertyGraph.Proofs.Sound

/-!
# Which relationships are created

A creation of a relationship checks one thing after the other, in two layers: the store looks at the
ends, the type and the id, and then the relationship is checked field by field. Some of the fields
have been looked at before and cannot fail any more: the type is not blank, the ends are ids of
nodes, which are not blank in a sound store, and the id was checked or starts with a word. What is
left are the properties and the weight.

So there is one list of conditions, in the order in which they are checked, and a creation goes
through if all of them hold. If not, the error is that of the first one which does not.
-/

namespace PropertyGraph

open Text Checked

/-! ## Conditions in order -/

/-- A condition, and the errors that tell of its violation. -/
structure Condition where
  holds : Prop
  kind : ErrorKind
  tells : GraphError → Prop

/-- What conditions that are checked one after the other make the answer. -/
inductive Decides {α : Type} : List Condition → Except GraphError α → Prop where
  /-- All conditions hold. -/
  | passed (a : α) : Decides [] (.ok a)
  /-- The first condition holds, and the others decide. -/
  | held {c : Condition} {cs : List Condition} {answer : Except GraphError α} (hc : c.holds)
    (h : Decides cs answer) : Decides (c :: cs) answer
  /-- The first condition does not hold, and the others do not matter. -/
  | violated {c : Condition} {cs : List Condition} {e : GraphError} (hc : ¬ c.holds)
    (htells : c.tells e) (hkind : e.report.kind = c.kind) : Decides (c :: cs) (.error e)

namespace Decides

variable {α : Type} {cs before after : List Condition} {c : Condition}
  {answer : Except GraphError α}

/-- Checks in sequence are decided by their conditions in sequence. -/
theorem bind {β : Type} {x : Except GraphError β} {f : β → Except GraphError α}
    (h : Decides before x) (hf : ∀ b, x = .ok b → Decides after (f b)) :
    Decides (before ++ after) (x >>= f) := by
  induction h with
  | passed b => exact hf b rfl
  | held hc _ ih => exact .held hc (ih hf)
  | violated hc htells hkind => exact .violated hc htells hkind

/-- There is a result exactly if all conditions hold. -/
theorem exists_ok_iff (h : Decides cs answer) :
    (∃ a, answer = .ok a) ↔ ∀ c ∈ cs, c.holds := by
  induction h with
  | passed a => simp
  | held hc _ ih => rw [ih, List.forall_mem_cons, and_iff_right hc]
  | violated hc =>
    constructor
    · rintro ⟨a, ha⟩
      exact absurd ha (by simp)
    · intro hall
      exact absurd (hall _ List.mem_cons_self) hc

/-- The first condition that does not hold makes the error. -/
theorem error_of_first (h : Decides (before ++ c :: after) answer)
    (hbefore : ∀ d ∈ before, d.holds) (hc : ¬ c.holds) :
    ∃ e, answer = .error e ∧ c.tells e ∧ e.report.kind = c.kind := by
  induction before with
  | nil =>
    cases h with
    | held hholds => exact absurd hholds hc
    | violated _ htells hkind => exact ⟨_, rfl, htells, hkind⟩
  | cons d before ih =>
    have hd := hbefore d List.mem_cons_self
    cases h with
    | held _ hrest => exact ih hrest fun b hb => hbefore b (List.mem_cons_of_mem _ hb)
    | violated hnot => exact absurd hd hnot

end Decides

/-! ## Requests -/

/-- What a caller can ask for: any texts as type and ids, a map of any documents, and possibly a
weight and an id. -/
structure RelationshipRequest where
  type : String
  source : String
  target : String
  properties : OrderedMap String Document
  weight : Option Float
  id : Option String

namespace RelationshipRequest

def draft (q : RelationshipRequest) : RelationshipDraft where
  type := .text q.type
  source := q.source
  target := q.target
  properties := q.properties.entries
  weight := q.weight.elim .null .float
  id := q.id.map .text

/-- What is asked of the ends and the type. -/
def endConditions (q : RelationshipRequest) (s : Store) : List Condition :=
  [ -- the source is a node
    ⟨s.hasNode q.source = true, .reference, (· = .noSource q.source)⟩,
    -- the target is a node
    ⟨s.hasNode q.target = true, .reference, (· = .noTarget q.target)⟩,
    -- they differ, or need not
    ⟨q.source = q.target → s.policy.allowSelfLoops = true, .constraint,
      (· = .selfLoop q.source)⟩,
    -- the type is not blank
    ⟨isBlankText q.type = false, .validation, (· = .blankRelationshipType)⟩]

/-- What is asked of the id. -/
def idConditions (q : RelationshipRequest) (s : Store) (tokens : TokenSource) : List Condition :=
  [ -- one that is given is not blank
    ⟨∀ id ∈ q.id, isBlankText id = false, .validation, fun e => ∃ shown, e = .invalidId shown⟩,
    -- and no relationship has it
    ⟨∀ id ∈ q.id, s.hasRelationship id = false, .constraint,
      fun e => ∃ id ∈ q.id, e = .idInUse id⟩,
    -- otherwise one that is free is drawn in time
    ⟨q.id = none → ∃ id ∈ tokens.candidates Store.relationshipWord,
      s.hasRelationship id = false, .collision, (· = .noFreeId)⟩]

/-- What is asked of the data: keys that are not empty, scalars, and a weight that is not at most
zero. -/
def dataCondition (q : RelationshipRequest) : Condition :=
  ⟨(∀ e ∈ q.properties.entries, e.1 ≠ "" ∧ e.2.scalar?.isSome = true) ∧ ∀ w ∈ q.weight, ¬ w ≤ 0,
    .validation, fun e => ∃ vs, e = .invalidRelationship vs⟩

/-- What a store checks of a request, in this order. -/
def conditions (q : RelationshipRequest) (s : Store) (tokens : TokenSource) : List Condition :=
  q.endConditions s ++ (q.idConditions s tokens ++ [q.dataCondition])

end RelationshipRequest

/-! ## Creations -/

namespace Store

variable {s : Store} {supply : Supply} {q : RelationshipRequest}

/-- The answer of the last check of a creation. -/
def createdAs (s : Store) (draft : RelationshipDraft) (supply : Supply) (type id : String) :
    Except GraphError String :=
  ((Relationship.check id type draft.source draft.target
    (OrderedMap.ofList draft.properties).entries draft.weight (s.stamp supply).1
    (s.stamp supply).1).toExcept.mapError .invalidRelationship).map Relationship.id

/-- The answer to a creation is that of three checks in sequence. -/
theorem fst_createRelationship (s : Store) (draft : RelationshipDraft) (supply : Supply) :
    (s.createRelationship draft supply).1 = s.admitEnds draft >>= fun type =>
      (newId draft.id relationshipWord s.hasRelationship supply.tokens).1 >>=
        s.createdAs draft supply type := by
  unfold createRelationship
  cases s.admitEnds draft with
  | error e => rfl
  | ok type =>
    show _ = (newId draft.id relationshipWord s.hasRelationship supply.tokens).1 >>= _
    rcases newId draft.id relationshipWord s.hasRelationship supply.tokens with ⟨answer, tokens⟩
    cases answer with
    | error e => rfl
    | ok id =>
      -- the stamp does not depend on the tokens that were used up
      show _ = s.createdAs draft { supply with tokens } type id
      unfold createdAs
      dsimp only
      cases Relationship.check id type draft.source draft.target
        (OrderedMap.ofList draft.properties).entries draft.weight
        (s.stamp { supply with tokens }).1 (s.stamp { supply with tokens }).1 with
      | refused vs => rfl
      | accepted r => rfl

theorem decides_ends (s : Store) (q : RelationshipRequest) :
    Decides (q.endConditions s) (s.admitEnds q.draft) := by
  have hdraft : s.admitEnds q.draft = if !s.hasNode q.source then .error (.noSource q.source)
    else if !s.hasNode q.target then .error (.noTarget q.target)
    else if q.source = q.target ∧ !s.policy.allowSelfLoops then .error (.selfLoop q.source)
    else (draftType? (.text q.type)).elim (.error .blankRelationshipType) .ok := rfl
  rw [hdraft]
  by_cases hsource : s.hasNode q.source = true
  · rw [if_neg (by simp [hsource])]
    refine .held hsource ?_
    by_cases htarget : s.hasNode q.target = true
    · rw [if_neg (by simp [htarget])]
      refine .held htarget ?_
      by_cases hloop : q.source = q.target → s.policy.allowSelfLoops = true
      · rw [if_neg (by simpa using hloop)]
        refine .held hloop ?_
        cases htype : isBlankText q.type with
        | true =>
          have hnone : draftType? (.text q.type) = none := if_pos htype
          rw [hnone]
          exact .violated (by simp) rfl rfl
        | false =>
          rw [draftType?_text htype]
          exact .held rfl (.passed _)
      · rw [if_pos (by simpa using hloop)]
        exact .violated hloop rfl rfl
    · rw [if_pos (by simp [htarget])]
      exact .violated htarget rfl rfl
  · rw [if_pos (by simp [hsource])]
    exact .violated hsource rfl rfl

theorem decides_id (s : Store) (q : RelationshipRequest) (tokens : TokenSource) :
    Decides (q.idConditions s tokens)
      (newId q.draft.id relationshipWord s.hasRelationship tokens).1 := by
  unfold RelationshipRequest.idConditions RelationshipRequest.draft
  cases hid : q.id with
  | none =>
    refine .held (by simp) (.held (by simp) ?_)
    show Decides _ (drawId relationshipWord s.hasRelationship tokens).1
    rcases drawId_cases relationshipWord s.hasRelationship tokens with
      ⟨id, rest, hmem, hfree, heq⟩ | ⟨htaken, rest, heq⟩
    · rw [heq]
      exact .held (fun _ => ⟨id, hmem, hfree⟩) (.passed _)
    · rw [heq]
      refine .violated (fun hdrawn => ?_) rfl rfl
      obtain ⟨id, hmem, hfree⟩ := hdrawn rfl
      exact absurd (htaken id hmem) (by simp [hfree])
  | some id =>
    cases hblank : isBlankText id with
    | true =>
      have hrefused : newId (some (.text id)) relationshipWord s.hasRelationship tokens
          = (.error (.invalidId (Document.text id).display), tokens) := by
        unfold newId callerId
        simp [hblank]
      rw [Option.map_some, hrefused]
      exact .violated (by simp [hblank]) ⟨_, rfl⟩ rfl
    | false =>
      rw [Option.map_some, newId_given hblank]
      refine .held (by simp [hblank]) ?_
      cases htaken : s.hasRelationship id with
      | true =>
        rw [if_pos rfl]
        exact .violated (by simp [htaken]) ⟨id, rfl, rfl⟩ rfl
      | false =>
        rw [if_neg Bool.false_ne_true]
        exact .held (by simp [htaken]) (.held (by simp) (.passed _))

/-- A new id is not blank: it was checked, or it starts with a word. -/
theorem not_blank_of_newId {given : Option String} {tokens : TokenSource} {id : String}
    (h : (newId (given.map .text) relationshipWord s.hasRelationship tokens).1 = .ok id) :
    isBlankText id = false := by
  cases given with
  | none =>
    rcases drawId_cases relationshipWord s.hasRelationship tokens with
      ⟨drawn, rest, hmem, -, heq⟩ | ⟨-, rest, heq⟩
    · have hok : (Except.ok drawn : Except GraphError String) = .ok id :=
        (congrArg Prod.fst heq).symm.trans h
      rw [← Except.ok.inj hok]
      exact not_blank_of_candidate hmem (by decide)
    · exact absurd ((congrArg Prod.fst heq).symm.trans h) (by simp)
  | some id' =>
    cases hblank : isBlankText id' with
    | true =>
      unfold newId callerId at h
      simp [hblank] at h
    | false =>
      rw [Option.map_some, newId_given hblank] at h
      dsimp only at h
      split at h
      · exact absurd h (by simp)
      · rwa [← Except.ok.inj h]

/-- A weight that is asked for is accepted unless it is at most zero. -/
theorem draft_weight_iff {w : Option Float} :
    q.draft.weight.asFloat?.andThen Relationship.checkWeight = accepted w
      ↔ (∀ x ∈ q.weight, ¬ x ≤ 0) ∧ q.weight = w := by
  have hread : q.draft.weight.asFloat? = accepted q.weight := by
    unfold RelationshipRequest.draft
    cases q.weight <;> rfl
  rw [hread]
  exact Relationship.checkWeight_eq_accepted_iff

/-- With ends, a type and an id that are not blank, the properties and the weight decide. -/
theorem decides_data {type id : String} (htype : isBlankText type = false)
    (hid : isBlankText id = false) (hsource : isBlankText q.source = false)
    (htarget : isBlankText q.target = false) :
    Decides [q.dataCondition] (s.createdAs q.draft supply type id) := by
  have hproperties : (OrderedMap.ofList q.draft.properties).entries = q.properties.entries :=
    congrArg OrderedMap.entries (OrderedMap.ofList_entries q.properties)
  unfold createdAs
  rw [hproperties]
  cases hcheck : Relationship.check id type q.draft.source q.draft.target q.properties.entries
    q.draft.weight (s.stamp supply).1 (s.stamp supply).1 with
  | accepted r =>
    obtain ⟨-, -, -, -, hps, hweight, -⟩ := Relationship.check_eq_accepted.mp hcheck
    exact .held ⟨(Properties.check_eq_accepted.mp hps).1, (draft_weight_iff.mp hweight).1⟩
      (.passed _)
  | refused vs =>
    refine .violated (fun hdata => ?_) ⟨vs, rfl⟩ rfl
    -- with data that are in order the relationship would be accepted
    have haccepted : Relationship.check id type q.source q.target q.properties.entries
        q.draft.weight (s.stamp supply).1 (s.stamp supply).1
          = accepted ⟨id, trim type, q.source, q.target, _, q.weight, _, _⟩ :=
      Relationship.check_eq_accepted.mpr ⟨⟨hid, rfl⟩, ⟨htype, rfl⟩, ⟨hsource, rfl⟩,
        ⟨htarget, rfl⟩, Properties.check_eq_accepted.mpr ⟨hdata.1, rfl⟩,
        draft_weight_iff.mpr ⟨hdata.2, rfl⟩, rfl, rfl⟩
    exact absurd (haccepted.symm.trans hcheck) (by simp)

theorem Sound.not_blank_of_hasNode (hs : s.Sound) {id : String} (h : s.hasNode id = true) :
    isBlankText id = false := by
  obtain ⟨n, hn⟩ := OrderedMap.mem_keys.mp (hasNode_iff.mp h)
  have hkey : id = n.id := hs.nodes_keyed (id, n) hn
  exact hkey ▸ (hs.nodes_valid (id, n) hn).id

/-- The conditions decide a creation in a sound store. -/
theorem Sound.decides_creation (hs : s.Sound) (q : RelationshipRequest) (supply : Supply) :
    Decides (q.conditions s supply.tokens) (s.createRelationship q.draft supply).1 := by
  rw [fst_createRelationship]
  refine (decides_ends s q).bind fun type htype => ?_
  obtain ⟨hsource, htarget, -, hdraft⟩ := admitEnds_eq_ok_iff.mp htype
  have htext : isBlankText type = false := by
    have hasked : (if isBlankText q.type then none else some q.type) = some type := hdraft
    split at hasked
    · exact absurd hasked (by simp)
    · rename_i hnot
      rw [← Option.some.inj hasked]
      simpa using hnot
  refine (decides_id s q supply.tokens).bind fun id hid => ?_
  exact decides_data htext (not_blank_of_newId hid) (hs.not_blank_of_hasNode hsource)
    (hs.not_blank_of_hasNode htarget)

/-- How a store answers to the creations of relationships. -/
structure ChecksInOrder (s : Store) : Prop where
  /-- A creation goes through exactly if all conditions hold. -/
  succeeds : ∀ (q : RelationshipRequest) (supply : Supply),
    (∃ id t rest, s.createRelationship q.draft supply = (.ok id, t, rest))
      ↔ ∀ c ∈ q.conditions s supply.tokens, c.holds
  /-- Otherwise the error is that of the first one that does not. -/
  refuses : ∀ (q : RelationshipRequest) (supply : Supply) before c after,
    q.conditions s supply.tokens = before ++ c :: after → (∀ d ∈ before, d.holds) → ¬ c.holds →
      ∃ e t rest, s.createRelationship q.draft supply = (.error e, t, rest)
        ∧ c.tells e ∧ e.report.kind = c.kind

/--
**A relationship is created unless a condition is violated, and the first one that is makes the
error.** This holds in every store that can be reached, for whatever texts, documents and weights a
caller hands in, and whichever tokens come next.
-/
theorem checksInOrder_of_reachable (h : Reachable s) : s.ChecksInOrder where
  succeeds := by
    intro q supply
    rw [← ((sound_of_reachable h).decides_creation q supply).exists_ok_iff]
    constructor
    · rintro ⟨id, t, rest, heq⟩
      exact ⟨id, congrArg Prod.fst heq⟩
    · rintro ⟨id, heq⟩
      exact ⟨id, _, _, Prod.ext heq rfl⟩
  refuses := by
    intro q supply before c after hconditions hbefore hc
    have hdecides := (sound_of_reachable h).decides_creation q supply
    rw [hconditions] at hdecides
    obtain ⟨e, heq, htells, hkind⟩ := hdecides.error_of_first hbefore hc
    exact ⟨e, _, _, Prod.ext heq rfl, htells, hkind⟩

/-- A request that is in order, and one of which the source, the type and the id are not. -/
theorem checksInOrder_of_reachable_sample :
    ∃ (supply : Supply) (good bad : RelationshipRequest),
      (∃ id t rest, (sample ⟨true, true⟩).createRelationship good.draft supply = (.ok id, t, rest))
        ∧ (isBlankText bad.type = true ∧ bad.id = some "r")
        ∧ ∃ t rest, (sample ⟨true, true⟩).createRelationship bad.draft supply
          = (.error (.noSource "z"), t, rest) := by
  have h := checksInOrder_of_reachable (Reachable.sample ⟨true, true⟩)
  let supply : Supply := ⟨⟨[], fun _ => "", 0⟩, .still 0⟩
  let good : RelationshipRequest := ⟨"T", "a", "b", ∅, none, none⟩
  let bad : RelationshipRequest := ⟨"", "z", "b", ∅, none, some "r"⟩
  have hgood : ∀ c ∈ good.conditions (sample ⟨true, true⟩) supply.tokens, c.holds := by
    unfold RelationshipRequest.conditions RelationshipRequest.endConditions
      RelationshipRequest.idConditions
    simp only [List.cons_append, List.nil_append, List.forall_mem_cons]
    refine ⟨by decide, by decide, fun _ => rfl, by decide, by simp [good], by simp [good],
      fun _ => ⟨"rel_", by decide, by decide⟩, ⟨by simp [good], by simp [good]⟩, by simp⟩
  obtain ⟨e, t, rest, heq, rfl, -⟩ := h.refuses bad supply [] _ _ rfl (by simp) (by decide)
  exact ⟨supply, good, bad, (h.succeeds good supply).mpr hgood, ⟨by decide, rfl⟩, t, rest, heq⟩

end Store

end PropertyGraph
