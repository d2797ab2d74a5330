import PropertyGraph.Proofs.Lifetimes
import PropertyGraph.Proofs.Neighbourhood

/-!
# Elements are found under their types

A type is trimmed whenever an element is accepted, and a trimmed type stays as it is. Queries and
filters trim nothing: they compare the type that is stored with the text that they are given. So an
element is found under the trimmed text of its creation, whatever has happened to it since, and
under no other. With blanks around it, the text of its creation does not find it.

What an analysis makes of a relationship is told by comparing a store with the same store without
it.
-/

namespace PropertyGraph

open Analytics Text

/-- How many of the ends of a relationship lie at a node. -/
def Relationship.endsAt (r : Relationship) (id : String) : Nat :=
  (if r.source = id then 1 else 0) + if r.target = id then 1 else 0

namespace Analytics

theorem degreeOf_append_cons (before after : List Relationship) (r : Relationship) (id : String) :
    degreeOf (before ++ r :: after) id = degreeOf (before ++ after) id + r.endsAt id := by
  unfold degreeOf Relationship.endsAt
  simp only [List.countP_append, List.countP_cons, beq_iff_eq]
  omega

end Analytics

namespace Store

variable {s u : Store} {type : String} {r : Relationship}

/-- The store without a relationship. -/
def withoutRelationship (s : Store) (id : String) : Store := (s.deleteRelationship id).2

/-- A relationship that queries and analyses find under one type alone. -/
structure FindsUnder (u : Store) (type : String) (r : Relationship) : Prop where
  /-- It is listed among those of the type, and of no other. -/
  listed : ∀ q, r ∈ u.relationshipsOfType (some q) ↔ q = type
  /-- So it is at its source, if not only incoming ones are asked for, -/
  at_source : ∀ q d, d ≠ .incoming →
    ∃ rs, u.nodeRelationships r.source (some q) d = .ok rs ∧ (r ∈ rs ↔ q = type)
  /-- and at its target, if not only outgoing ones are. -/
  at_target : ∀ q d, d ≠ .outgoing →
    ∃ rs, u.nodeRelationships r.target (some q) d = .ok rs ∧ (r ∈ rs ↔ q = type)
  /-- It adds its ends to the degrees if the filter lets its type pass, and otherwise nothing. -/
  counted : ∀ types, ∀ d ∈ degrees (u.withoutRelationship r.id).snapshot types none,
    ⟨d.node, d.degree + if types = [] ∨ type ∈ types then r.endsAt d.node else 0⟩
      ∈ degrees u.snapshot types none
  /-- If the filter lets its type pass, its ends are in one component. -/
  joined : ∀ types, types = [] ∨ type ∈ types →
    ∃ c ∈ components u.snapshot types, r.source ∈ c ∧ r.target ∈ c
  /-- If not, the components are as they are without it. -/
  ignored : ∀ types, ¬ (types = [] ∨ type ∈ types) →
    components u.snapshot types = components (u.withoutRelationship r.id).snapshot types

/-! ## One relationship more -/

/-- Without a relationship all others are listed as before. -/
theorem Sound.exists_split (hu : u.Sound) (hr : r ∈ u.relationships.values) :
    ∃ before after, u.relationships.values = before ++ r :: after
      ∧ (u.withoutRelationship r.id).relationships.values = before ++ after
      ∧ (u.withoutRelationship r.id).nodes = u.nodes := by
  obtain ⟨k, hk⟩ := OrderedMap.mem_values.mp hr
  obtain rfl : k = r.id := hu.relationships_keyed _ hk
  have hdelete : u.withoutRelationship r.id
      = { u with relationships := u.relationships.erase r.id } := by
    unfold withoutRelationship Store.deleteRelationship
    rw [relationship_eq_ok_iff.mpr hk]
  obtain ⟨before, after, hentries, herase⟩ := OrderedMap.entries_erase_of_mem hk
  refine ⟨before.map Prod.snd, after.map Prod.snd, ?_, ?_, by rw [hdelete]⟩
  · unfold OrderedMap.values
    rw [hentries, List.map_append, List.map_cons]
  · rw [hdelete]
    unfold OrderedMap.values
    rw [herase, List.map_append]

/-- With a relationship that is filtered out the filter leaves what it leaves without it. -/
theorem Sound.exists_followed_split (hu : u.Sound) (hr : r ∈ u.relationships.values)
    (types : List String) : ∃ before after,
      (u.withoutRelationship r.id).followed types = before ++ after
      ∧ u.followed types = before ++ (if Passes types r then [r] else []) ++ after := by
  obtain ⟨before, after, hvalues, hwithout, -⟩ := hu.exists_split hr
  refine ⟨before.filter fun q => Passes types q, after.filter fun q => Passes types q, ?_, ?_⟩
  · unfold followed
    rw [hwithout, List.filter_append]
  · unfold followed
    rw [hvalues, List.filter_append, List.filter_cons]
    by_cases hpass : Passes types r
    · simp [hpass]
    · simp [hpass]

theorem Sound.degree_split (hu : u.Sound) (hr : r ∈ u.relationships.values)
    (types : List String) (id : String) : degreeOf (u.followed types) id
      = degreeOf ((u.withoutRelationship r.id).followed types) id
        + if Passes types r then r.endsAt id else 0 := by
  obtain ⟨before, after, hwithout, hwith⟩ := hu.exists_followed_split hr types
  rw [hwithout, hwith]
  by_cases hpass : Passes types r
  · rw [if_pos hpass, if_pos hpass, List.append_assoc]
    exact degreeOf_append_cons before after r id
  · rw [if_neg hpass, if_neg hpass, List.append_nil]
    rfl

theorem Sound.nodeIds_withoutRelationship (hu : u.Sound) (hr : r ∈ u.relationships.values) :
    (u.withoutRelationship r.id).snapshot.nodeIds = u.snapshot.nodeIds := by
  obtain ⟨_, _, -, -, hnodes⟩ := hu.exists_split hr
  unfold snapshot
  rw [hnodes]
  rfl

/-- **Every relationship is found under its type.** -/
theorem Sound.findsUnder (hu : u.Sound) (hr : r ∈ u.relationships.values) :
    u.FindsUnder r.type r := by
  have hlisted : ∀ q, r ∈ u.relationshipsOfType (some q) ↔ q = r.type := by
    intro q
    rw [mem_relationshipsOfType]
    unfold Passes
    simp [hr, eq_comm]
  obtain ⟨k, hk⟩ := OrderedMap.mem_values.mp hr
  have hsource : u.hasNode r.source = true := hasNode_iff.mpr (hu.source_live (k, r) hk)
  have htarget : u.hasNode r.target = true := hasNode_iff.mpr (hu.target_live (k, r) hk)
  constructor
  case listed => exact hlisted
  case at_source =>
    intro q d hd
    refine ⟨_, nodeRelationships_eq hsource (some q) d, ?_⟩
    have hmeets : d.meets r r.source = true := by simp [Direction.meets, hd]
    rw [List.mem_filter, hlisted, and_iff_left hmeets]
  case at_target =>
    intro q d hd
    refine ⟨_, nodeRelationships_eq htarget (some q) d, ?_⟩
    have hmeets : d.meets r r.target = true := by simp [Direction.meets, hd]
    rw [List.mem_filter, hlisted, and_iff_left hmeets]
  case counted =>
    intro types d hd
    have hnodes := hu.nodeIds_withoutRelationship hr
    have hnode : d.node ∈ u.snapshot.nodeIds := by
      obtain ⟨id, hid, rfl⟩ := List.mem_map.mp ((Analytics.degrees_perm _ types).mem_iff.mp hd)
      exact hnodes ▸ hid
    have hdegree := (mem_degrees_iff (hnodes ▸ hnode)).mp hd
    rw [mem_degrees_iff hnode, hdegree, ofTypes_eq_followed, ofTypes_eq_followed,
      hu.degree_split hr]
    rfl
  case joined =>
    intro types hpass
    obtain ⟨c, hc, hmem⟩ : ∃ c ∈ components u.snapshot types, r.source ∈ c :=
      hu.exists_component hsource
    refine ⟨c, hc, hmem, (mem_component_iff hc hmem).mpr ?_⟩
    exact Relation.ReflTransGen.single ⟨r, hr, hpass, Or.inl ⟨rfl, rfl⟩⟩
  case ignored =>
    intro types hpass
    obtain ⟨before, after, hwithout, hwith⟩ := hu.exists_followed_split hr types
    rw [if_neg (show ¬ Passes types r from hpass), List.append_nil] at hwith
    unfold components
    rw [ofTypes_eq_followed, ofTypes_eq_followed, hu.nodeIds_withoutRelationship hr, hwithout,
      hwith]

/-! ## The types of creations -/

theorem draftType?_eq_some {d : Document} (h : draftType? d = some type) : d = .text type := by
  unfold draftType? at h
  split at h
  · split at h
    · exact absurd h (by simp)
    · rw [Option.some.inj h]
  · exact absurd h (by simp)

/-- A created node has its trimmed type from the start. -/
theorem has_of_createNode {draft : NodeDraft} {supply rest : Supply} {id : String} {t : Store}
    (h : s.createNode draft supply = (.ok id, t, rest)) :
    ∃ text l, draft.type = .text text ∧ l.id = id ∧ l.type = trim text
      ∧ t.snapshot.Has .node l := by
  rcases createNode_cases s draft supply with
    ⟨e, tokens, heq⟩ | ⟨vs, tokens, heq⟩ | ⟨text, tokens, n, htext, -, hn, heq⟩
  · exact absurd (congrArg Prod.fst (heq.symm.trans h)) (by simp)
  · exact absurd (congrArg Prod.fst (heq.symm.trans h)) (by simp)
  · obtain ⟨hok, hleft⟩ := Prod.mk.inj (heq.symm.trans h)
    obtain rfl := (Prod.mk.inj hleft).1
    obtain ⟨-, ⟨-, htype⟩, -⟩ := Node.check_eq_accepted.mp hn
    refine ⟨text, n.lasting, draftType?_eq_some htext, Except.ok.inj hok, htype.symm, n, ?_, rfl⟩
    exact OrderedMap.mem_values.mpr ⟨n.id, OrderedMap.mem_entries_insert.mpr (Or.inl rfl)⟩

/-- A created relationship has its trimmed type, and its ends, from the start. -/
theorem has_of_createRelationship {draft : RelationshipDraft} {supply rest : Supply} {id : String}
    {t : Store} (h : s.createRelationship draft supply = (.ok id, t, rest)) :
    ∃ text l, draft.type = .text text ∧ l.id = id ∧ l.type = trim text
      ∧ l.ends = some (draft.source, draft.target) ∧ t.snapshot.Has .relationship l := by
  rcases createRelationship_cases s draft supply with
    ⟨e, tokens, heq⟩ | ⟨vs, tokens, heq⟩ | ⟨text, tokens, r, hends, -, hr, heq⟩
  · exact absurd (congrArg Prod.fst (heq.symm.trans h)) (by simp)
  · exact absurd (congrArg Prod.fst (heq.symm.trans h)) (by simp)
  · obtain ⟨hok, hleft⟩ := Prod.mk.inj (heq.symm.trans h)
    obtain rfl := (Prod.mk.inj hleft).1
    obtain ⟨-, -, -, htext⟩ := admitEnds_eq_ok_iff.mp hends
    obtain ⟨-, ⟨-, htype⟩, ⟨-, hsource⟩, ⟨-, htarget⟩, -⟩ := Relationship.check_eq_accepted.mp hr
    refine ⟨text, r.lasting, draftType?_eq_some htext, Except.ok.inj hok, htype.symm, ?_, r, ?_,
      rfl⟩
    · rw [hsource, htarget]
      rfl
    · exact OrderedMap.mem_values.mpr ⟨r.id, OrderedMap.mem_entries_insert.mpr (Or.inl rfl)⟩

/-! ## Lookups at any later time -/

/-- A store whose creations are found by their trimmed types as long as they live. -/
structure Findable (s : Store) : Prop where
  /-- A node is listed under the trimmed text of its type, and under no other. -/
  node : ∀ draft supply id t rest, s.createNode draft supply = (.ok id, t, rest) →
    ∃ text, draft.type = .text text ∧ ∀ u, Later .node id t u →
      ∃ n ∈ u.nodes.values, n.id = id ∧ ∀ q, n ∈ u.nodesOfType (some q) ↔ q = trim text
  /-- A relationship is found under the trimmed text of its type, and under no other. -/
  relationship : ∀ draft supply id t rest,
    s.createRelationship draft supply = (.ok id, t, rest) →
    ∃ text, draft.type = .text text ∧ ∀ u, Later .relationship id t u →
      ∃ r ∈ u.relationships.values, r.id = id ∧ r.source = draft.source ∧ r.target = draft.target
        ∧ u.FindsUnder (trim text) r

/--
**Elements are found under the types they were created with**, without the blanks around these. In
any later store in which an element still lives, after updates, and after exports, imports and
restores, the queries list it, the degrees count it and the components follow it by its trimmed
type.
-/
theorem findable_of_reachable (h : Reachable s) : s.Findable where
  node draft supply id t rest hcreate := by
    obtain ⟨text, l, htext, rfl, htype, hhas⟩ := has_of_createNode hcreate
    refine ⟨text, htext, fun u hu => ?_⟩
    have ht : Reachable t := by
      have hcall := h.call supply (.createNode draft) rfl
      rwa [call, hcreate] at hcall
    obtain ⟨n, hn, rfl⟩ := hu.has ht hhas
    refine ⟨n, hn, rfl, fun q => ?_⟩
    have hlisted : n ∈ u.nodesOfType (some q) ↔ n.type = q := by
      show n ∈ u.nodes.values.filter (fun m => m.type == q) ↔ _
      rw [List.mem_filter, beq_iff_eq]
      exact and_iff_right hn
    rw [hlisted, ← htype, eq_comm]
    rfl
  relationship draft supply id t rest hcreate := by
    obtain ⟨text, l, htext, rfl, htype, hends, hhas⟩ := has_of_createRelationship hcreate
    refine ⟨text, htext, fun u hu => ?_⟩
    have ht : Reachable t := by
      have hcall := h.call supply (.createRelationship draft) rfl
      rwa [call, hcreate] at hcall
    obtain ⟨r, hr, rfl⟩ := hu.has ht hhas
    obtain ⟨hsource, htarget⟩ := Prod.mk.inj (Option.some.inj hends)
    refine ⟨r, hr, rfl, hsource, htarget, ?_⟩
    rw [← htype]
    exact (sound_of_reachable (hu.reachable ht)).findsUnder hr

/-- A relationship whose type has blanks around it, after it has been given a weight and after a
node elsewhere has been deleted. -/
theorem findable_of_reachable_padded :
    let supply : Supply := ⟨⟨[], fun _ => "", 0⟩, .still 0⟩
    let s := sample ⟨true, true⟩
    let t := (s.createRelationship ⟨.text " V ", "a", "c", [], .null, some (.text "v")⟩ supply).2.1
    let u := t.after [(supply, .updateRelationship "v" ⟨[], .float 2, false⟩),
      (supply, .deleteNode "b")]
    Reachable s ∧ u.relationships.keys = ["l", "v"]
      ∧ ∃ r ∈ u.relationships.values, r.id = "v" ∧ u.FindsUnder "V" r := by
  intro supply s t u
  have hs : Reachable s := Reachable.sample ⟨true, true⟩
  obtain ⟨text, htext, hfound⟩ := (findable_of_reachable hs).relationship
    ⟨.text " V ", "a", "c", [], .null, some (.text "v")⟩ supply "v" t _
    (Prod.ext (by decide +kernel) rfl)
  obtain rfl : " V " = text := Scalar.text.inj (Document.scalar.inj htext)
  have hlater : Later .relationship "v" t u := by
    refine Later.refl.after ?_ (by decide +kernel)
    simp [Call.Sourced, Call.imported?]
  obtain ⟨r, hr, hid, -, -, hunder⟩ := hfound u hlater
  have htrim : trim " V " = "V" := by decide
  exact ⟨hs, by decide +kernel, r, hr, hid, htrim ▸ hunder⟩

/-- With the blanks of its creation the type does not find the element. -/
theorem not_found_padded :
    let created := (Store.empty ⟨true, true⟩).createNode ⟨.text " A ", [], [], some (.text "a")⟩
      ⟨⟨[], fun _ => "", 0⟩, .still 0⟩
    created.1 = .ok "a" ∧ created.2.1.nodesOfType (some " A ") = []
      ∧ (created.2.1.nodesOfType (some "A")).map Node.id = ["a"] := by
  decide +kernel

end Store

end PropertyGraph
