import Mathlib.Data.List.Forall2
import PropertyGraph.Proofs.Chronology

/-!
# Edits of lists of elements

What happens to the elements of a store is told by edits: an element is appended, amended where it
stands, or removed. `Edit.Leads` says of a sequence of edits what it makes of a list of entries.
Those that were there and were not removed come first, in the order in which they were, each with
all that lasts and, unless it was amended, as it was; after them come the entries that were
appended, in that order, as far as they were not removed again.

The relation composes, which is all that runs need. An element that is removed may come back under
its id, but then at the end: an entry at the start stays only if no edit of the whole sequence
removes its id.
-/

namespace PropertyGraph

/-! ## What lasts -/

/-- What an element keeps as long as it is there. -/
structure Lasting where
  id : String
  type : String
  /-- The source and the target of a relationship. -/
  ends : Option (String × String)
  createdAt : DateTime

def Node.lasting (n : Node) : Lasting := ⟨n.id, n.type, none, n.createdAt⟩

def Relationship.lasting (r : Relationship) : Lasting :=
  ⟨r.id, r.type, some (r.source, r.target), r.createdAt⟩

/-! ## Edits -/

/-- What can happen to an element. -/
inductive Change where
  | append
  | amend
  | remove
deriving DecidableEq

/-- An edit of the elements of a kind. -/
structure Edit where
  kind : ElementKind
  change : Change
  id : String
deriving DecidableEq

namespace Edit

variable {α : Type} {lasting : α → Lasting} {kind : ElementKind} {es fs : List Edit}
  {before mid after : List (String × α)}

def appends (kind : ElementKind) (ids : List String) : List Edit :=
  ids.map fun id => ⟨kind, .append, id⟩

def removes (kind : ElementKind) (ids : List String) : List Edit :=
  ids.map fun id => ⟨kind, .remove, id⟩

/-- Whether edits leave the element of a kind under an id, if it was there before. -/
def Spare (es : List Edit) (kind : ElementKind) (id : String) : Prop := ⟨kind, .remove, id⟩ ∉ es

instance (es : List Edit) (kind : ElementKind) (id : String) : Decidable (Spare es kind id) :=
  inferInstanceAs (Decidable (_ ∉ _))

/-- The ids that have been appended, and not removed again, after an edit. -/
def arrive (kind : ElementKind) (ids : List String) (e : Edit) : List String :=
  if e.kind = kind then
    match e.change with
    | .append => ids ++ [e.id]
    | .amend => ids
    | .remove => ids.filter (· ≠ e.id)
  else ids

/-- The ids that edits append, in order, without those that are removed again. -/
def arrivals (kind : ElementKind) (es : List Edit) : List String := es.foldl (arrive kind) []

/-- What edits leave of an entry that they spare. -/
structure Keeps (lasting : α → Lasting) (kind : ElementKind) (es : List Edit)
    (e e' : String × α) : Prop where
  key : e'.1 = e.1
  lasting : lasting e'.2 = lasting e.2
  /-- Only an amendment changes anything. -/
  same : ⟨kind, .amend, e.1⟩ ∉ es → e'.2 = e.2

/-- What edits make of a list of entries. -/
def Leads (lasting : α → Lasting) (kind : ElementKind) (es : List Edit)
    (before after : List (String × α)) : Prop :=
  ∃ kept added, after = kept ++ added
    ∧ List.Forall₂ (Keeps lasting kind es) (before.filter fun e => Spare es kind e.1) kept
    ∧ added.map Prod.fst = arrivals kind es

theorem spare_append {id : String} :
    Spare (es ++ fs) kind id ↔ Spare es kind id ∧ Spare fs kind id := by
  unfold Spare
  rw [List.mem_append, not_or]

/-- One edit removes some of the ids that are there, or lets one more arrive. -/
theorem arrive_eq (kind : ElementKind) (ids : List String) (e : Edit) :
    arrive kind ids e = ids.filter (fun id => Spare [e] kind id) ++ arrive kind [] e := by
  have hspare : ∀ id, Spare [e] kind id ↔ ¬ (e.kind = kind ∧ e.change = .remove ∧ e.id = id) := by
    intro id
    obtain ⟨k, c, i⟩ := e
    unfold Spare
    rw [List.mem_singleton, Edit.mk.injEq]
    exact not_congr ⟨fun h => ⟨h.1.symm, h.2.1.symm, h.2.2.symm⟩,
      fun h => ⟨h.1.symm, h.2.1.symm, h.2.2.symm⟩⟩
  simp only [hspare]
  unfold arrive
  by_cases hk : e.kind = kind
  · cases hc : e.change with
    | append => simp [hk]
    | amend => simp [hk]
    | remove => simp [hk, eq_comm]
  · simp [hk]

/-- Ids that are there at the start come before those that arrive, unless they are removed. -/
theorem foldl_arrive (kind : ElementKind) (es : List Edit) (ids : List String) :
    es.foldl (arrive kind) ids
      = ids.filter (fun id => Spare es kind id) ++ arrivals kind es := by
  induction es generalizing ids with
  | nil => simp [arrivals, Spare]
  | cons e es ih =>
    have harrivals : arrivals kind (e :: es)
        = (arrive kind [] e).filter (fun id => Spare es kind id) ++ arrivals kind es := ih _
    have hfilter : ids.filter (fun id => Spare (e :: es) kind id)
        = (ids.filter fun id => Spare [e] kind id).filter fun id => Spare es kind id := by
      rw [List.filter_filter]
      refine List.filter_congr fun id _ => ?_
      rw [← Bool.decide_and, decide_eq_decide, and_comm]
      show Spare ([e] ++ es) kind id ↔ _
      exact spare_append
    rw [List.foldl_cons, ih, arrive_eq, List.filter_append, harrivals, hfilter,
      List.append_assoc]

theorem Keeps.refl (e : String × α) : Keeps lasting kind es e e := ⟨rfl, rfl, fun _ => rfl⟩

theorem Keeps.trans {e e' e'' : String × α} (h : Keeps lasting kind es e e')
    (h' : Keeps lasting kind fs e' e'') : Keeps lasting kind (es ++ fs) e e'' where
  key := h'.key.trans h.key
  lasting := h'.lasting.trans h.lasting
  same := by
    intro hnot
    rw [List.mem_append, not_or] at hnot
    rw [← h.key] at hnot
    exact (h'.same hnot.2).trans (h.same (h.key ▸ hnot.1))

/-- A list that is related to another in two parts falls into two parts itself. -/
theorem forall₂_append {β γ : Type} {R : β → γ → Prop} {as bs : List β} {cs : List γ}
    (h : List.Forall₂ R (as ++ bs) cs) :
    ∃ ds es, cs = ds ++ es ∧ List.Forall₂ R as ds ∧ List.Forall₂ R bs es := by
  refine ⟨_, _, (List.take_append_drop as.length cs).symm, ?_, ?_⟩
  · exact (List.forall₂_take_append _ _ _ h.flip).flip
  · exact (List.forall₂_drop_append _ _ _ h.flip).flip

theorem forall₂_comp {β : Type} {R S T : β → β → Prop}
    (hT : ∀ a b c, R a b → S b c → T a c) {as bs cs : List β} (h : List.Forall₂ R as bs)
    (h' : List.Forall₂ S bs cs) : List.Forall₂ T as cs := by
  induction h generalizing cs with
  | nil =>
    cases h'
    exact .nil
  | cons hab _ ih =>
    cases h' with
    | cons hbc hrest => exact .cons (hT _ _ _ hab hbc) (ih hrest)

theorem forall₂_keys {as bs : List (String × α)} (h : List.Forall₂ (Keeps lasting kind es) as bs) :
    bs.map Prod.fst = as.map Prod.fst := by
  induction h with
  | nil => rfl
  | cons he _ ih => rw [List.map_cons, List.map_cons, he.key, ih]

/-- **Edits compose.** -/
theorem Leads.trans (h : Leads lasting kind es before mid) (h' : Leads lasting kind fs mid after) :
    Leads lasting kind (es ++ fs) before after := by
  obtain ⟨kept, added, rfl, hkept, hadded⟩ := h
  obtain ⟨left, added', rfl, hleft, hadded'⟩ := h'
  rw [List.filter_append] at hleft
  -- of what is left, one part was there at the start, and the other was added in between
  obtain ⟨kept', added'', rfl, hfirst, hsecond⟩ := forall₂_append hleft
  refine ⟨kept', added'' ++ added', List.append_assoc _ _ _, ?_, ?_⟩
  · -- the one part is what both sequences of edits spare
    have hspared : before.filter (fun e => Spare (es ++ fs) kind e.1)
        = (before.filter fun e => Spare es kind e.1).filter fun e => Spare fs kind e.1 := by
      rw [List.filter_filter]
      refine List.filter_congr fun e _ => ?_
      rw [← Bool.decide_and, decide_eq_decide, and_comm]
      exact spare_append
    have hthrough := List.rel_filter (R := Keeps lasting kind es)
      (p := fun e => Spare fs kind e.1) (q := fun e => Spare fs kind e.1)
      (fun e e' he => by simp [he.key]) hkept
    rw [hspared]
    exact forall₂_comp (fun _ _ _ h h' => h.trans h') hthrough hfirst
  · -- the other is what the first sequence appended and the second spares
    have hkeys : added''.map Prod.fst
        = (arrivals kind es).filter fun id => Spare fs kind id := by
      rw [← hadded, List.filter_map]
      exact forall₂_keys hsecond
    unfold arrivals
    rw [List.map_append, hkeys, hadded', List.foldl_append, foldl_arrive]
    rfl

/-- An entry that edits spare is kept. -/
theorem Leads.exists_keeps (h : Leads lasting kind es before after) {e : String × α}
    (he : e ∈ before) (hspare : Spare es kind e.1) : ∃ e' ∈ after, Keeps lasting kind es e e' := by
  obtain ⟨kept, added, rfl, hkept, -⟩ := h
  have hmem : e ∈ before.filter fun e => Spare es kind e.1 :=
    List.mem_filter.mpr ⟨he, decide_eq_true hspare⟩
  generalize before.filter (fun e => Spare es kind e.1) = spared at hkept hmem
  induction hkept with
  | nil => exact absurd hmem List.not_mem_nil
  | @cons d d' _ _ hd _ ih =>
    rcases List.mem_cons.mp hmem with rfl | hmem
    · exact ⟨d', List.mem_append_left _ List.mem_cons_self, hd⟩
    · obtain ⟨e', he', hkeeps⟩ := ih hmem
      exact ⟨e', List.mem_cons_of_mem _ he', hkeeps⟩

/-! ## Single edits -/

theorem arrivals_append (kind : ElementKind) (ids : List String) :
    arrivals kind (appends kind ids) = ids := by
  have hfold : ∀ start, (appends kind ids).foldl (arrive kind) start
      = start ++ ids := by
    induction ids with
    | nil => simp [appends]
    | cons id ids ih =>
      intro start
      unfold appends at ih ⊢
      rw [List.map_cons, List.foldl_cons, ih]
      simp [arrive]
  exact hfold []

theorem arrivals_remove (kind : ElementKind) (ids : List String) :
    arrivals kind (removes kind ids) = [] := by
  induction ids with
  | nil => rfl
  | cons id ids ih => simpa [arrivals, arrive, removes] using ih

theorem arrivals_other (h : ∀ e ∈ es, e.kind ≠ kind) : arrivals kind es = [] := by
  induction es with
  | nil => rfl
  | cons e es ih =>
    have hrest := ih fun e' he' => h e' (List.mem_cons_of_mem _ he')
    unfold arrivals at hrest ⊢
    rw [List.foldl_cons, arrive, if_neg (h e List.mem_cons_self)]
    exact hrest

/-- Where nothing is removed, all that was there is kept. -/
theorem Leads.of_kept {kept : List (String × α)} (added : List (String × α))
    (hspare : ∀ id, Spare es kind id)
    (hkept : List.Forall₂ (Keeps lasting kind es) before kept)
    (hadded : added.map Prod.fst = arrivals kind es) :
    Leads lasting kind es before (kept ++ added) := by
  refine ⟨kept, added, rfl, ?_, hadded⟩
  rw [List.filter_eq_self.mpr fun e _ => decide_eq_true (hspare e.1)]
  exact hkept

theorem forall₂_keeps_refl (before : List (String × α)) :
    List.Forall₂ (Keeps lasting kind es) before before :=
  List.forall₂_same.mpr fun e _ => .refl e

/-- Edits of elements of the other kind change nothing. -/
theorem Leads.other (h : ∀ e ∈ es, e.kind ≠ kind) (before : List (String × α)) :
    Leads lasting kind es before before := by
  have hkept : List.Forall₂ (Keeps lasting kind es) before before := forall₂_keeps_refl before
  have hleads := Leads.of_kept [] (fun id hid => h _ hid rfl) hkept (arrivals_other h).symm
  rwa [List.append_nil] at hleads

theorem Leads.append (before added : List (String × α)) :
    Leads lasting kind (appends kind (added.map Prod.fst)) before (before ++ added) := by
  refine Leads.of_kept added ?_ (forall₂_keeps_refl before) (arrivals_append kind _).symm
  intro id hid
  obtain ⟨_, -, heq⟩ := List.mem_map.mp hid
  exact absurd heq (by simp)

theorem Leads.amend {first rest : List (String × α)} {id : String} {a a' : α}
    (h : lasting a' = lasting a) :
    Leads lasting kind [⟨kind, .amend, id⟩] (first ++ (id, a) :: rest)
      (first ++ (id, a') :: rest) := by
  have hspare : ∀ id', Spare [⟨kind, .amend, id⟩] kind id' := by
    intro id' hid
    exact absurd (List.mem_singleton.mp hid) (by simp)
  have hamended : Keeps lasting kind [⟨kind, .amend, id⟩] (id, a) (id, a') :=
    ⟨rfl, h, fun hnot => absurd List.mem_cons_self hnot⟩
  have hkept := List.rel_append (forall₂_keeps_refl first)
    (List.Forall₂.cons hamended (forall₂_keeps_refl rest))
  have hnone : arrivals kind [⟨kind, .amend, id⟩] = [] := by simp [arrivals, arrive]
  have hleads := Leads.of_kept [] hspare hkept hnone.symm
  rwa [List.append_nil] at hleads

theorem Leads.remove (ids : List String) (before : List (String × α)) :
    Leads lasting kind (removes kind ids) before (before.filter fun e => e.1 ∉ ids) := by
  refine ⟨_, [], (List.append_nil _).symm, ?_, (arrivals_remove kind ids).symm⟩
  have hspare : ∀ id, Spare (removes kind ids) kind id ↔ id ∉ ids := by
    intro id
    unfold Spare removes
    simp
  simp only [hspare]
  exact forall₂_keeps_refl _

/-- Removing all ids leaves nothing. -/
theorem Leads.clear (m : OrderedMap String α) :
    Leads lasting kind (removes kind m.keys) m.entries [] := by
  have hnone : (m.entries.filter fun e => e.1 ∉ m.keys) = [] := by
    refine List.filter_eq_nil_iff.mpr fun e he => ?_
    rw [decide_eq_true_iff, not_not]
    exact List.mem_map_of_mem he
  rw [← hnone]
  exact .remove m.keys m.entries

/-- Elements are appended under their ids. -/
theorem Leads.appendAll (key : α → String) (before : List (String × α)) (added : List α) :
    Leads lasting kind (appends kind (added.map key)) before
      (before ++ added.map fun a => (key a, a)) := by
  have hkeys : (added.map fun a => (key a, a)).map Prod.fst = added.map key := by
    rw [List.map_map]
    rfl
  rw [← hkeys]
  exact .append before _

end Edit

end PropertyGraph
