import Mathlib
import PropertyGraph.Proofs.Batch
import PropertyGraph.Proofs.Operations
import PropertyGraph.Proofs.Reachable

/-!
# Time in stores

A run of a store leaves a trail of marks: one for each element that a call put in, with the reason
why it did so and the date-times that the element has since. Read from its start, the trail is a
history of the date-times of all elements.

Two things bear the whole chronology. A store never hands out a stamp before its last one, which is
never before the date-time of an element; and an update finds its element with the date-times of
that element's latest mark. `Advances` says both of the trail that leads from one store to another.

Whatever calls do consists of a few pieces: elements are taken away, a stamp is taken, an element is
put in with it, an element is taken in as it is. `Passage` is the trail of these, and snapshots,
batches and runs are put together from them. `Advances` holds of every piece and is closed under
composition.
-/

namespace PropertyGraph

/-! ## Marks -/

/-- The two kinds of elements. -/
inductive ElementKind where
  | node
  | relationship
deriving DecidableEq

/-- The date-times of an element. -/
structure Dates where
  createdAt : DateTime
  updatedAt : DateTime

namespace Dates

/-- The last update is not before the creation. -/
def Ordered (d : Dates) : Prop := d.createdAt.instant ≤ d.updatedAt.instant

/-- Later date-times of the same element: its creation is the same, and the order is kept. -/
structure KeptBy (d d' : Dates) : Prop where
  createdAt : d'.createdAt = d.createdAt
  ordered : d.Ordered → d'.Ordered

theorem KeptBy.refl (d : Dates) : d.KeptBy d := ⟨rfl, id⟩

theorem KeptBy.trans {a b c : Dates} (h : a.KeptBy b) (h' : b.KeptBy c) : a.KeptBy c :=
  ⟨h'.createdAt.trans h.createdAt, h'.ordered ∘ h.ordered⟩

/-- An update that is not earlier keeps the order. -/
theorem keptBy_of_le {d d' : Dates} (hc : d'.createdAt = d.createdAt)
    (hu : d.updatedAt.instant ≤ d'.updatedAt.instant) : d.KeptBy d' where
  createdAt := hc
  ordered := by
    intro h
    unfold Ordered at h ⊢
    rw [hc]
    exact Int.le_trans h hu

end Dates

def Node.dates (n : Node) : Dates := ⟨n.createdAt, n.updatedAt⟩

def Relationship.dates (r : Relationship) : Dates := ⟨r.createdAt, r.updatedAt⟩

/-- Why an element was put into a store. -/
inductive Cause where
  | created
  | updated
  | imported
deriving DecidableEq

/-- The trace of an element that was put into a store. -/
structure Mark where
  cause : Cause
  kind : ElementKind
  id : String
  dates : Dates

namespace Mark

/-- Whether the store assigned the date of the last update itself. -/
def IsStamp (m : Mark) : Prop := m.cause ≠ .imported

/-- Whether the element came into the store, and was not there already. -/
def IsEntry (m : Mark) : Prop := m.cause ≠ .updated

/-- Whether the mark is one of the element of a kind under an id. -/
def Concerns (m : Mark) (kind : ElementKind) (id : String) : Prop := m.kind = kind ∧ m.id = id

instance (m : Mark) (kind : ElementKind) (id : String) : Decidable (m.Concerns kind id) :=
  inferInstanceAs (Decidable (_ ∧ _))

/-- The instant of the last update. -/
def instant (m : Mark) : Int := m.dates.updatedAt.instant

end Mark

/-! ## Tables of date-times -/

/-- The date-times of elements by kind and id. -/
abbrev Timetable := ElementKind → String → Option Dates

namespace Timetable

/-- The table after a mark. -/
def note (t : Timetable) (m : Mark) : Timetable :=
  fun kind id => if m.Concerns kind id then some m.dates else t kind id

/-- The table after a trail of marks. -/
def replay (t : Timetable) (ms : List Mark) : Timetable := ms.foldl note t

/-- Everything in the one table is in the other. -/
def Within (t u : Timetable) : Prop := ∀ kind id d, t kind id = some d → u kind id = some d

/-- Each update of a trail finds its element, and leaves the date of its creation alone. -/
def Follows (t : Timetable) : List Mark → Prop
  | [] => True
  | m :: ms =>
    (m.cause = .updated → ∃ d, t m.kind m.id = some d ∧ m.dates.createdAt = d.createdAt)
      ∧ (t.note m).Follows ms

variable {t u v : Timetable}

theorem note_of_concerns {m : Mark} {kind : ElementKind} {id : String} (h : m.Concerns kind id) :
    t.note m kind id = some m.dates := if_pos h

theorem note_of_not_concerns {m : Mark} {kind : ElementKind} {id : String}
    (h : ¬ m.Concerns kind id) : t.note m kind id = t kind id := if_neg h

/-- A table that has the dates of a mark, and is otherwise the same, is the table after it. -/
theorem eq_note {m : Mark} (hmark : u m.kind m.id = some m.dates)
    (hother : ∀ kind id, ¬ m.Concerns kind id → u kind id = t kind id) : u = t.note m := by
  funext kind id
  by_cases hm : m.Concerns kind id
  · obtain ⟨rfl, rfl⟩ := hm
    rw [note_of_concerns ⟨rfl, rfl⟩]
    exact hmark
  · rw [note_of_not_concerns hm]
    exact hother kind id hm

theorem replay_append (t : Timetable) (ms ns : List Mark) :
    t.replay (ms ++ ns) = (t.replay ms).replay ns := List.foldl_append

theorem Within.refl (t : Timetable) : t.Within t := fun _ _ _ h => h

theorem Within.trans (h : t.Within u) (h' : u.Within v) : t.Within v :=
  fun kind id d hd => h' kind id d (h kind id d hd)

theorem Within.note (h : t.Within u) (m : Mark) : (t.note m).Within (u.note m) := by
  intro kind id d hd
  by_cases hm : m.Concerns kind id
  · rw [note_of_concerns hm] at hd ⊢
    exact hd
  · rw [note_of_not_concerns hm] at hd ⊢
    exact h kind id d hd

theorem Within.replay (h : t.Within u) (ms : List Mark) : (t.replay ms).Within (u.replay ms) := by
  induction ms generalizing t u with
  | nil => exact h
  | cons m ms ih => exact ih (h.note m)

theorem Follows.mono (h : t.Within u) {ms : List Mark} (hms : t.Follows ms) : u.Follows ms := by
  induction ms generalizing t u with
  | nil => trivial
  | cons m ms ih =>
    refine ⟨fun hm => ?_, ih (h.note m) hms.2⟩
    obtain ⟨d, hd, hc⟩ := hms.1 hm
    exact ⟨d, h _ _ d hd, hc⟩

theorem follows_append {ms ns : List Mark} :
    t.Follows (ms ++ ns) ↔ t.Follows ms ∧ (t.replay ms).Follows ns := by
  induction ms generalizing t with
  | nil => exact ⟨fun h => ⟨trivial, h⟩, fun h => h.2⟩
  | cons m ms ih =>
    rw [List.cons_append]
    show (_ ∧ (t.note m).Follows (ms ++ ns)) ↔ (_ ∧ (t.note m).Follows ms) ∧ _
    rw [ih, and_assoc]
    rfl

end Timetable

/-! ## Trails between stores -/

namespace Store

variable {s t u : Store}

/-- The date-times of the elements of a store. -/
def timetable (s : Store) : Timetable
  | .node, id => (s.nodes.get? id).map Node.dates
  | .relationship, id => (s.relationships.get? id).map Relationship.dates

/-- The instant of the last stamp; before any other if there has been none. -/
def latest (s : Store) : WithBot Int := s.lastStamp.elim ⊥ fun t => t.instant

/-- A trail of marks that leads from one store to another. -/
structure Advances (s : Store) (ms : List Mark) (t : Store) : Prop where
  /-- The last stamp is not an earlier one. -/
  latest_le : s.latest ≤ t.latest
  /-- No mark is later than the last stamp. -/
  noted : ∀ m ∈ ms, m.instant ≤ t.latest
  /-- No stamp is before the last one that there was at the start. -/
  stamped : ∀ m ∈ ms, m.IsStamp → s.latest ≤ m.instant
  /-- No stamp is before any earlier mark. -/
  in_order : ms.Pairwise fun m m' => m'.IsStamp → m.instant ≤ m'.instant
  /-- A creation has one stamp for both date-times. -/
  created : ∀ m ∈ ms, m.cause = .created → m.dates.createdAt = m.dates.updatedAt
  /-- Updates keep to what the marks before them say. -/
  follows : s.timetable.Follows ms
  /-- What is there at the end is what the marks say. -/
  within : t.timetable.Within (s.timetable.replay ms)

namespace Advances

/-- Nothing is put in. -/
theorem silent (hlatest : s.latest ≤ t.latest) (hwithin : t.timetable.Within s.timetable) :
    s.Advances [] t where
  latest_le := hlatest
  noted := fun _ hm => absurd hm List.not_mem_nil
  stamped := fun _ hm => absurd hm List.not_mem_nil
  in_order := List.Pairwise.nil
  created := fun _ hm => absurd hm List.not_mem_nil
  follows := trivial
  within := hwithin

/-- One element is put in. -/
theorem single {m : Mark} (hlatest : s.latest ≤ t.latest) (hnoted : m.instant ≤ t.latest)
    (hstamped : m.IsStamp → s.latest ≤ m.instant)
    (hcreated : m.cause = .created → m.dates.createdAt = m.dates.updatedAt)
    (hupdated : m.cause = .updated →
      ∃ d, s.timetable m.kind m.id = some d ∧ m.dates.createdAt = d.createdAt)
    (hwithin : t.timetable.Within (s.timetable.note m)) : s.Advances [m] t where
  latest_le := hlatest
  noted := by
    intro m' hm
    rw [List.mem_singleton.mp hm]
    exact hnoted
  stamped := by
    intro m' hm
    rw [List.mem_singleton.mp hm]
    exact hstamped
  in_order := List.pairwise_singleton _ m
  created := by
    intro m' hm
    rw [List.mem_singleton.mp hm]
    exact hcreated
  follows := ⟨hupdated, trivial⟩
  within := hwithin

/-- **Trails compose.** What came before is held together with what follows by the last stamp. -/
theorem trans {ms ns : List Mark} (h : s.Advances ms t) (h' : t.Advances ns u) :
    s.Advances (ms ++ ns) u where
  latest_le := h.latest_le.trans h'.latest_le
  noted := by
    intro m hm
    rcases List.mem_append.mp hm with hm | hm
    · exact (h.noted m hm).trans h'.latest_le
    · exact h'.noted m hm
  stamped := by
    intro m hm hstamp
    rcases List.mem_append.mp hm with hm | hm
    · exact h.stamped m hm hstamp
    · exact h.latest_le.trans (h'.stamped m hm hstamp)
  in_order := by
    refine List.pairwise_append.mpr ⟨h.in_order, h'.in_order, fun m hm m' hm' hstamp => ?_⟩
    exact WithBot.coe_le_coe.mp ((h.noted m hm).trans (h'.stamped m' hm' hstamp))
  created := by
    intro m hm
    rcases List.mem_append.mp hm with hm | hm
    · exact h.created m hm
    · exact h'.created m hm
  follows := Timetable.follows_append.mpr ⟨h.follows, h'.follows.mono h.within⟩
  within := by
    rw [Timetable.replay_append]
    exact h'.within.trans (h.within.replay ns)

end Advances

/-! ## Stamps -/

theorem latest_le_stamp (s : Store) (supply : Supply) :
    s.latest ≤ (s.stamp supply).1.instant := by
  unfold latest
  cases hlast : s.lastStamp with
  | none => exact bot_le
  | some last => exact WithBot.coe_le_coe.mpr (le_stamp supply hlast)

theorem latest_le_stamped (s : Store) (supply : Supply) : s.latest ≤ (s.stamped supply).latest :=
  s.latest_le_stamp supply

theorem latest_le_noteStamp (s : Store) (seen : DateTime) :
    s.latest ≤ (s.noteStamp seen).latest := by
  unfold latest noteStamp
  cases hlast : s.lastStamp with
  | none => exact bot_le
  | some last => exact WithBot.coe_le_coe.mpr (DateTime.le_instant_laterOf_left _ _)

theorem le_latest_noteStamp (s : Store) (seen : DateTime) :
    seen.instant ≤ (s.noteStamp seen).latest := by
  unfold latest noteStamp
  cases hlast : s.lastStamp with
  | none => exact WithBot.coe_le_coe.mpr (by simp)
  | some last =>
    refine WithBot.coe_le_coe.mpr ?_
    rw [← DateTime.instant_withOffset seen]
    exact DateTime.le_instant_laterOf_right _ _

/-! ## Tables of stores -/

/-- Where a node is put under an id, the table changes there. -/
theorem timetable_of_node {id : String} {n : Node} (hn : t.nodes = s.nodes.insert id n)
    (hr : t.relationships = s.relationships) (cause : Cause) :
    t.timetable = s.timetable.note ⟨cause, .node, id, n.dates⟩ := by
  refine Timetable.eq_note ?_ fun kind id' hm => ?_
  · show (t.nodes.get? id).map Node.dates = some n.dates
    rw [hn, OrderedMap.get?_insert, if_pos rfl]
    rfl
  · cases kind with
    | node =>
      show (t.nodes.get? id').map Node.dates = (s.nodes.get? id').map Node.dates
      rw [hn, OrderedMap.get?_insert, if_neg fun h => hm ⟨rfl, h.symm⟩]
    | relationship =>
      show (t.relationships.get? id').map Relationship.dates = _
      rw [hr]
      rfl

theorem timetable_of_relationship {id : String} {r : Relationship} (hn : t.nodes = s.nodes)
    (hr : t.relationships = s.relationships.insert id r) (cause : Cause) :
    t.timetable = s.timetable.note ⟨cause, .relationship, id, r.dates⟩ := by
  refine Timetable.eq_note ?_ fun kind id' hm => ?_
  · show (t.relationships.get? id).map Relationship.dates = some r.dates
    rw [hr, OrderedMap.get?_insert, if_pos rfl]
    rfl
  · cases kind with
    | node =>
      show (t.nodes.get? id').map Node.dates = _
      rw [hn]
      rfl
    | relationship =>
      show (t.relationships.get? id').map Relationship.dates
        = (s.relationships.get? id').map Relationship.dates
      rw [hr, OrderedMap.get?_insert, if_neg fun h => hm ⟨rfl, h.symm⟩]

/-- Where elements are only removed, nothing new is in the table. -/
theorem within_of_subset (hn : ∀ e ∈ t.nodes.entries, e ∈ s.nodes.entries)
    (hr : ∀ e ∈ t.relationships.entries, e ∈ s.relationships.entries) :
    t.timetable.Within s.timetable := by
  intro kind id d hd
  cases kind with
  | node =>
    obtain ⟨n, hmem, rfl⟩ := Option.map_eq_some_iff.mp hd
    have hold := hn _ (OrderedMap.get?_eq_some_iff.mp hmem)
    exact Option.map_eq_some_iff.mpr ⟨n, OrderedMap.get?_eq_some_iff.mpr hold, rfl⟩
  | relationship =>
    obtain ⟨r, hmem, rfl⟩ := Option.map_eq_some_iff.mp hd
    have hold := hr _ (OrderedMap.get?_eq_some_iff.mp hmem)
    exact Option.map_eq_some_iff.mpr ⟨r, OrderedMap.get?_eq_some_iff.mpr hold, rfl⟩

/-! ## Single elements -/

/-- An element that is put in with the stamp that has just been taken. -/
theorem Advances.ofStamp {m : Mark} {supply : Supply}
    (hlast : t.lastStamp = some (s.stamp supply).1)
    (hstamp : m.dates.updatedAt = (s.stamp supply).1)
    (hcreated : m.cause = .created → m.dates.createdAt = m.dates.updatedAt)
    (hupdated : m.cause = .updated →
      ∃ d, s.timetable m.kind m.id = some d ∧ m.dates.createdAt = d.createdAt)
    (htable : t.timetable = s.timetable.note m) : s.Advances [m] t := by
  have hinstant : m.instant = (s.stamp supply).1.instant := congrArg DateTime.instant hstamp
  have hlatest : t.latest = m.instant := by
    rw [hinstant]
    unfold latest
    rw [hlast]
    rfl
  have hle : s.latest ≤ m.instant := by
    rw [hinstant]
    exact s.latest_le_stamp supply
  refine single ?_ ?_ (fun _ => hle) hcreated hupdated ?_
  · rw [hlatest]
    exact hle
  · rw [hlatest]
  · rw [htable]
    exact .refl _

theorem Advances.afterStamp (s : Store) (supply : Supply) : s.Advances [] (s.stamped supply) :=
  silent (s.latest_le_stamped supply) (.refl _)

/-- An element that is taken in with date-times of its own. -/
theorem Advances.ofNote {m : Mark} (hcause : m.cause = .imported)
    (hlast : t.lastStamp = (s.noteStamp m.dates.updatedAt).lastStamp)
    (htable : t.timetable = s.timetable.note m) : s.Advances [m] t := by
  have hlatest : t.latest = (s.noteStamp m.dates.updatedAt).latest := by
    unfold latest
    rw [hlast]
  refine single ?_ ?_ (fun hstamp => absurd hcause hstamp) ?_ ?_ ?_
  · rw [hlatest]
    exact s.latest_le_noteStamp _
  · rw [hlatest]
    exact s.le_latest_noteStamp _
  · rw [hcause]
    exact fun h => absurd h (by decide)
  · rw [hcause]
    exact fun h => absurd h (by decide)
  · rw [htable]
    exact .refl _

/-- Elements that are taken away leave no mark. -/
theorem Advances.ofSubset (hlast : t.lastStamp = s.lastStamp)
    (hn : ∀ e ∈ t.nodes.entries, e ∈ s.nodes.entries)
    (hr : ∀ e ∈ t.relationships.entries, e ∈ s.relationships.entries) : s.Advances [] t := by
  refine silent ?_ (within_of_subset hn hr)
  unfold latest
  rw [hlast]

/-! ## What calls consist of -/

/--
A trail that leads from one store to another by what calls consist of. Whatever holds of these
pieces and composes holds of every run.
-/
inductive Passage : Store → List Mark → Store → Prop where
  /-- Elements are taken away, or not even that happens. -/
  | removed {s t : Store} (hlast : t.lastStamp = s.lastStamp)
    (hn : ∀ e ∈ t.nodes.entries, e ∈ s.nodes.entries)
    (hr : ∀ e ∈ t.relationships.entries, e ∈ s.relationships.entries) : Passage s [] t
  /-- A stamp is taken, of which nothing comes. -/
  | stamped (s : Store) (supply : Supply) : Passage s [] (s.stamped supply)
  /-- An element is put in with the stamp that has just been taken. -/
  | put {s t : Store} {m : Mark} {supply : Supply} (hlast : t.lastStamp = some (s.stamp supply).1)
    (hstamp : m.dates.updatedAt = (s.stamp supply).1)
    (hcreated : m.cause = .created → m.dates.createdAt = m.dates.updatedAt)
    (hupdated : m.cause = .updated →
      ∃ d, s.timetable m.kind m.id = some d ∧ m.dates.createdAt = d.createdAt)
    (htable : t.timetable = s.timetable.note m) : Passage s [m] t
  /-- An element is taken in with date-times of its own. -/
  | taken {s t : Store} {m : Mark} (hcause : m.cause = .imported)
    (hlast : t.lastStamp = (s.noteStamp m.dates.updatedAt).lastStamp)
    (htable : t.timetable = s.timetable.note m) : Passage s [m] t
  | trans {s t u : Store} {ms ns : List Mark} (h : Passage s ms t) (h' : Passage t ns u) :
    Passage s (ms ++ ns) u

namespace Passage

theorem refl (s : Store) : s.Passage [] s := .removed rfl (fun _ he => he) fun _ he => he

/-- Elements that are taken in one by one leave a mark each. -/
theorem foldl {α : Type} {take : Store → α → Store} {mark : α → Mark}
    (h : ∀ (s : Store) a, s.Passage [mark a] (take s a)) (s : Store) (as : List α) :
    s.Passage (as.map mark) (as.foldl take s) := by
  induction as generalizing s with
  | nil => exact refl s
  | cons a as ih => exact (h s a).trans (ih (take s a))

theorem advances {ms : List Mark} (h : s.Passage ms t) : s.Advances ms t := by
  induction h with
  | removed hlast hn hr => exact .ofSubset hlast hn hr
  | stamped s supply => exact .afterStamp s supply
  | put hlast hstamp hcreated hupdated htable =>
    exact .ofStamp hlast hstamp hcreated hupdated htable
  | taken hcause hlast htable => exact .ofNote hcause hlast htable
  | trans _ _ ih ih' => exact ih.trans ih'

end Passage

/-! ## Trails of calls -/

/-- The mark of the element that a store now has under an id. -/
def markOf (left : Store) (cause : Cause) (kind : ElementKind) (id : String) : List Mark :=
  (left.timetable kind id).toList.map fun d => ⟨cause, kind, id, d⟩

/-- The mark of the element that an operation answers with, if it is not refused. -/
def answered {α : Type} (cause : Cause) (kind : ElementKind) (idOf : α → String) :
    Except GraphError α × Store × Supply → List Mark
  | (.ok a, left, _) => left.markOf cause kind (idOf a)
  | (.error _, _, _) => []

/-- Runs a command and adds its mark to the trail. -/
def markedStep (state : (Store × Supply) × List Mark) (c : Command) :
    Except GraphError Outcome × (Store × Supply) × List Mark :=
  let (answer, left) := step state.1 c
  match answer with
  | .ok ⟨_, .created id ..⟩ => (answer, left, state.2 ++ left.1.markOf .created .node id)
  | _ => (answer, left, state.2)

end Store

/-- The marks of the elements of a snapshot. -/
def Snapshot.marks (g : Snapshot) : List Mark :=
  g.nodes.map (fun n => ⟨.imported, .node, n.id, n.dates⟩)
    ++ g.relationships.map fun r => ⟨.imported, .relationship, r.id, r.dates⟩

/-- The marks of the elements of a snapshot, if it was taken in. -/
def Snapshot.marksIfTaken {ε α : Type} (g : Snapshot) : Except ε α → List Mark
  | .ok _ => g.marks
  | .error _ => []

namespace Store

variable {s t : Store}

/-- The trail of a call. -/
def marks (s : Store) (supply : Supply) : Call → List Mark
  | .createNode draft => answered .created .node id (s.createNode draft supply)
  | .updateNode id change => answered .updated .node (fun _ => id) (s.updateNode id change supply)
  | .createRelationship draft =>
    answered .created .relationship id (s.createRelationship draft supply)
  | .updateRelationship id change =>
    answered .updated .relationship (fun _ => id) (s.updateRelationship id change supply)
  | .importSnapshot g => g.marksIfTaken (s.importSnapshot g).1
  | .restore a blob =>
    match a.load blob with
    | .ok g => g.marksIfTaken (s.replaceWith g).1
    | .error _ => []
  | .runBatch rules text => (Batch.run rules markedStep ((s, supply), []) text).2.2
  | .deleteNode _ | .deleteRelationship _ | .clear | .checkSnapshot .. => []

/-- A store into which an element was put with the stamp that has just been taken. -/
theorem passage_markOf {supply : Supply} {cause : Cause} {kind : ElementKind} {id : String}
    {d : Dates} (htable : t.timetable = s.timetable.note ⟨cause, kind, id, d⟩)
    (hlast : t.lastStamp = some (s.stamp supply).1) (hstamp : d.updatedAt = (s.stamp supply).1)
    (hcreated : cause = .created → d.createdAt = d.updatedAt)
    (hupdated : cause = .updated →
      ∃ d', s.timetable kind id = some d' ∧ d.createdAt = d'.createdAt) :
    s.Passage (t.markOf cause kind id) t := by
  have hmark : t.markOf cause kind id = [⟨cause, kind, id, d⟩] := by
    unfold markOf
    rw [htable, Timetable.note_of_concerns ⟨rfl, rfl⟩]
    rfl
  rw [hmark]
  exact .put hlast hstamp hcreated hupdated htable

theorem passage_createNode (s : Store) (draft : NodeDraft) (supply : Supply) :
    s.Passage (answered .created .node id (s.createNode draft supply))
      (s.createNode draft supply).2.1 := by
  rcases createNode_cases s draft supply with
    ⟨e, tokens, heq⟩ | ⟨vs, tokens, heq⟩ | ⟨type, tokens, n, -, -, hn, heq⟩
  · rw [heq]
    exact .refl s
  · rw [heq]
    exact .stamped s _
  · rw [heq]
    obtain ⟨-, -, -, -, hcreated, hupdated⟩ := Node.check_eq_accepted.mp hn
    refine passage_markOf (d := n.dates) ?_ rfl hupdated.symm
      (fun _ => hcreated.symm.trans hupdated) (fun h => absurd h (by decide))
    apply timetable_of_node <;> rfl

theorem passage_updateNode (s : Store) (id : String) (change : NodeChange) (supply : Supply) :
    s.Passage (answered .updated .node (fun _ => id) (s.updateNode id change supply))
      (s.updateNode id change supply).2.1 := by
  rcases updateNode_cases s id change supply with
    ⟨e, heq⟩ | ⟨vs, heq⟩ | ⟨n, n', hmem, hn, heq⟩
  · rw [heq]
    exact .refl s
  · rw [heq]
    exact .stamped s _
  · rw [heq]
    obtain ⟨-, -, -, -, hcreated, hupdated⟩ := Node.check_eq_accepted.mp hn
    refine passage_markOf (d := n'.dates) ?_ rfl hupdated.symm (fun h => absurd h (by decide))
      (fun _ => ?_)
    · apply timetable_of_node <;> rfl
    -- the node that is updated is the one in the table
    exact ⟨n.dates, Option.map_eq_some_iff.mpr ⟨n, OrderedMap.get?_eq_some_iff.mpr hmem, rfl⟩,
      hcreated.symm⟩

theorem passage_createRelationship (s : Store) (draft : RelationshipDraft) (supply : Supply) :
    s.Passage (answered .created .relationship id (s.createRelationship draft supply))
      (s.createRelationship draft supply).2.1 := by
  rcases createRelationship_cases s draft supply with
    ⟨e, tokens, heq⟩ | ⟨vs, tokens, heq⟩ | ⟨type, tokens, r, -, -, hr, heq⟩
  · rw [heq]
    exact .refl s
  · rw [heq]
    exact .stamped s _
  · rw [heq]
    obtain ⟨-, -, -, -, -, -, hcreated, hupdated⟩ := Relationship.check_eq_accepted.mp hr
    refine passage_markOf (d := r.dates) ?_ rfl hupdated.symm
      (fun _ => hcreated.symm.trans hupdated) (fun h => absurd h (by decide))
    apply timetable_of_relationship <;> rfl

theorem passage_updateRelationship (s : Store) (id : String) (change : RelationshipChange)
    (supply : Supply) :
    s.Passage
      (answered .updated .relationship (fun _ => id) (s.updateRelationship id change supply))
      (s.updateRelationship id change supply).2.1 := by
  rcases updateRelationship_cases s id change supply with
    ⟨e, heq⟩ | ⟨vs, heq⟩ | ⟨r, r', hmem, hr, heq⟩
  · rw [heq]
    exact .refl s
  · rw [heq]
    exact .stamped s _
  · rw [heq]
    obtain ⟨-, -, -, -, -, -, hcreated, hupdated⟩ := Relationship.check_eq_accepted.mp hr
    refine passage_markOf (d := r'.dates) ?_ rfl hupdated.symm (fun h => absurd h (by decide))
      (fun _ => ?_)
    · apply timetable_of_relationship <;> rfl
    exact ⟨r.dates, Option.map_eq_some_iff.mpr ⟨r, OrderedMap.get?_eq_some_iff.mpr hmem, rfl⟩,
      hcreated.symm⟩

theorem passage_deleteNode (s : Store) (id : String) : s.Passage [] (s.deleteNode id).2 := by
  rcases deleteNode_cases s id with ⟨e, heq⟩ | ⟨-, heq⟩
  · rw [heq]
    exact .refl s
  · rw [heq]
    exact .removed rfl (fun _ he => (OrderedMap.mem_entries_erase.mp he).1)
      fun _ he => (OrderedMap.mem_entries_foldl_erase.mp he).1

theorem passage_deleteRelationship (s : Store) (id : String) :
    s.Passage [] (s.deleteRelationship id).2 := by
  rcases deleteRelationship_cases s id with ⟨e, heq⟩ | heq
  · rw [heq]
    exact .refl s
  · rw [heq]
    exact .removed rfl (fun _ he => he) fun _ he => (OrderedMap.mem_entries_erase.mp he).1

/-- Clearing a store keeps its last stamp. -/
theorem passage_clear (s : Store) : s.Passage [] s.clear :=
  .removed rfl (fun _ he => absurd he List.not_mem_nil) fun _ he => absurd he List.not_mem_nil

theorem passage_takeNode (s : Store) (n : Node) :
    s.Passage [⟨.imported, .node, n.id, n.dates⟩] (s.takeNode n) :=
  .taken rfl rfl (timetable_of_node (s := s) (t := s.takeNode n) (n := n) rfl rfl .imported)

theorem passage_takeRelationship (s : Store) (r : Relationship) :
    s.Passage [⟨.imported, .relationship, r.id, r.dates⟩] (s.takeRelationship r) :=
  .taken rfl rfl
    (timetable_of_relationship (s := s) (t := s.takeRelationship r) (r := r) rfl rfl .imported)

theorem passage_takeSnapshot (s : Store) (g : Snapshot) :
    s.Passage g.marks (s.takeSnapshot g) :=
  (Passage.foldl passage_takeNode s g.nodes).trans
    (Passage.foldl passage_takeRelationship _ g.relationships)

theorem passage_importSnapshot (s : Store) (g : Snapshot) :
    s.Passage (g.marksIfTaken (s.importSnapshot g).1) (s.importSnapshot g).2 := by
  rcases importSnapshot_cases s g with ⟨e, -, heq⟩ | ⟨-, heq⟩
  · rw [heq]
    exact .refl s
  · rw [heq]
    exact s.passage_takeSnapshot g

theorem passage_replaceWith (s : Store) (g : Snapshot) :
    s.Passage (g.marksIfTaken (s.replaceWith g).1) (s.replaceWith g).2 := by
  rcases replaceWith_cases s g with ⟨e, -, heq⟩ | ⟨-, heq⟩
  · rw [heq]
    exact .refl s
  · -- the clearing keeps the last stamp, so what is taken in comes after it
    rw [heq]
    exact s.passage_clear.trans (s.clear.passage_takeSnapshot g)

/-! ## Trails of batches -/

/-- Adding to the trail changes nothing in the run. -/
theorem markedStep_fst (state : (Store × Supply) × List Mark) (c : Command) :
    (markedStep state c).1 = (step state.1 c).1
      ∧ (markedStep state c).2.1 = (step state.1 c).2 := by
  unfold markedStep
  dsimp only
  split <;> exact ⟨rfl, rfl⟩

theorem passage_markedStep {state : (Store × Supply) × List Mark} (c : Command)
    (h : s.Passage state.2 state.1.1) :
    s.Passage (markedStep state c).2.2 (markedStep state c).2.1.1 := by
  obtain ⟨⟨t, supply⟩, ms⟩ := state
  unfold markedStep step execute
  dsimp only at h ⊢
  cases hc : c.action with
  | create name type properties =>
    have hnext := h.trans (t.passage_createNode
      ⟨.text type, properties.entries.map fun e => (e.1, Document.scalar e.2), [], none⟩ supply)
    dsimp only at hnext ⊢
    rcases hcreate : t.createNode ⟨.text type, _, [], none⟩ supply with ⟨answer, left, rest⟩
    rw [hcreate] at hnext
    cases answer with
    | error e => simpa [answered] using hnext
    | ok id => exact hnext
  | clear => simpa using h.trans t.passage_clear
  | _ =>
    unfold Snapshot.execute
    rw [hc]
    exact h

/-- The trail of a run of lines leads to where the run leads. -/
theorem passage_run (s : Store) (supply : Supply) (rules : BatchRules) (text : String) :
    s.Passage (Batch.run rules markedStep ((s, supply), []) text).2.2
      (Batch.run rules step (s, supply) text).2.1 := by
  rw [← (Batch.run_recorded markedStep_fst rules text ((s, supply), [])).2]
  exact Batch.run_preserves (P := fun state => s.Passage state.2 state.1.1)
    (fun _ c h => passage_markedStep c h) rules text ((s, supply), []) (.refl s)

/-! ## Runs -/

/-- **Every call leads along its trail.** -/
theorem passage_call (s : Store) (supply : Supply) (c : Call) :
    s.Passage (s.marks supply c) (s.call supply c).2.1 := by
  cases c with
  | createNode draft => exact s.passage_createNode draft supply
  | updateNode id change => exact s.passage_updateNode id change supply
  | deleteNode id => exact s.passage_deleteNode id
  | createRelationship draft => exact s.passage_createRelationship draft supply
  | updateRelationship id change => exact s.passage_updateRelationship id change supply
  | deleteRelationship id => exact s.passage_deleteRelationship id
  | clear => exact s.passage_clear
  | checkSnapshot g replace => exact .refl s
  | importSnapshot g => exact s.passage_importSnapshot g
  | restore a blob =>
    show s.Passage
      (match a.load blob with
        | .ok g => g.marksIfTaken (s.replaceWith g).1
        | .error _ => [])
      (s.restore a blob).2
    unfold restore
    cases a.load blob with
    | error f => exact .refl s
    | ok g => exact s.passage_replaceWith g
  | runBatch rules text => exact s.passage_run supply rules text

theorem advances_call (s : Store) (supply : Supply) (c : Call) :
    s.Advances (s.marks supply c) (s.call supply c).2.1 := (s.passage_call supply c).advances

/-- Makes calls one after the other, each with a supply of its own; gives their trail and the store
that is left. -/
def history (s : Store) : List (Supply × Call) → List Mark × Store
  | [] => ([], s)
  | (supply, c) :: cs =>
    let (ms, left) := (s.call supply c).2.1.history cs
    (s.marks supply c ++ ms, left)

theorem passage_history (s : Store) (cs : List (Supply × Call)) :
    s.Passage (s.history cs).1 (s.history cs).2 := by
  induction cs generalizing s with
  | nil => exact .refl s
  | cons c cs ih => exact (s.passage_call c.1 c.2).trans (ih _)

theorem advances_history (s : Store) (cs : List (Supply × Call)) :
    s.Advances (s.history cs).1 (s.history cs).2 := (s.passage_history cs).advances

/-! ## What a trail tells of an element -/

/--
The element of a kind under an id has entered once, since then it was only updated, and all its
date-times, up to the given ones, keep to those with which it entered.
-/
def Traces (ms : List Mark) (kind : ElementKind) (id : String) (d : Dates) : Prop :=
  ∃ before entry after, ms = before ++ entry :: after ∧ entry.IsEntry ∧ entry.Concerns kind id
    ∧ entry.dates.KeptBy d
    ∧ ∀ m ∈ after, m.Concerns kind id → m.cause = .updated ∧ entry.dates.KeptBy m.dates

/-- In a trail from an empty store, every element that is there can be traced to its entry. -/
theorem traces_of_follows {ms : List Mark} (hfollows : Timetable.Follows (fun _ _ => none) ms)
    (horder : ms.Pairwise fun m m' => m'.IsStamp → m.instant ≤ m'.instant)
    {kind : ElementKind} {id : String} {d : Dates}
    (hd : Timetable.replay (fun _ _ => none) ms kind id = some d) :
    Traces ms kind id d ∧ ∃ m ∈ ms, m.dates = d := by
  -- from the last mark backwards: it is of another element, an update, or the entry
  induction ms using List.reverseRecOn generalizing d with
  | nil => exact absurd hd (by simp [Timetable.replay])
  | append_singleton ms m ih =>
    obtain ⟨hfollows, hlast, -⟩ := Timetable.follows_append.mp hfollows
    obtain ⟨horder, -, hbefore⟩ := List.pairwise_append.mp horder
    rw [Timetable.replay_append] at hd
    by_cases hm : m.Concerns kind id
    · have hd' : m.dates = d := Option.some.inj ((Timetable.note_of_concerns hm).symm.trans hd)
      refine ⟨?_, m, by simp, hd'⟩
      by_cases hcause : m.cause = .updated
      · obtain ⟨d₀, hd₀, hc⟩ := hlast hcause
        rw [hm.1, hm.2] at hd₀
        obtain ⟨⟨before, entry, after, hms, hentry, hid, hkept, hafter⟩, m₀, hm₀, hdates⟩ :=
          ih hfollows horder hd₀
        -- an update is a stamp, and so not before the last mark of the element
        have hstamp : m.IsStamp := by
          unfold Mark.IsStamp
          rw [hcause]
          decide
        have hle : d₀.updatedAt.instant ≤ m.dates.updatedAt.instant := by
          rw [← hdates]
          exact hbefore m₀ hm₀ m List.mem_cons_self hstamp
        have hkept' := hkept.trans (Dates.keptBy_of_le hc hle)
        refine ⟨before, entry, after ++ [m], by rw [hms]; simp, hentry, hid, hd' ▸ hkept', ?_⟩
        intro m' hm' hconcerns
        rcases List.mem_append.mp hm' with hm' | hm'
        · exact hafter m' hm' hconcerns
        · rw [List.mem_singleton.mp hm']
          exact ⟨hcause, hkept'⟩
      · exact ⟨ms, m, [], rfl, hcause, hm, hd' ▸ .refl _, fun _ h => absurd h List.not_mem_nil⟩
    · have hd₀ := (Timetable.note_of_not_concerns hm).symm.trans hd
      obtain ⟨⟨before, entry, after, hms, hentry, hid, hkept, hafter⟩, m₀, hm₀, hdates⟩ :=
        ih hfollows horder hd₀
      refine ⟨⟨before, entry, after ++ [m], by rw [hms]; simp, hentry, hid, hkept, ?_⟩, m₀,
        List.mem_append_left _ hm₀, hdates⟩
      intro m' hm' hconcerns
      rcases List.mem_append.mp hm' with hm' | hm'
      · exact hafter m' hm' hconcerns
      · exact absurd (List.mem_singleton.mp hm' ▸ hconcerns) hm

/-- What the trail of a run from an empty store says of it. -/
structure Chronicle (ms : List Mark) (s : Store) : Prop where
  /-- A stamp that the store assigned is not before any that it assigned or took in earlier. -/
  in_order : ms.Pairwise fun m m' => m'.IsStamp → m.instant ≤ m'.instant
  /-- A created element was created and updated at once. -/
  created : ∀ m ∈ ms, m.cause = .created → m.dates.createdAt = m.dates.updatedAt
  /-- No element was updated after the last stamp. -/
  live : ∀ kind id d, s.timetable kind id = some d → d.updatedAt.instant ≤ s.latest
  /-- Every element keeps the date of its creation, and the order of its date-times. -/
  traces : ∀ kind id d, s.timetable kind id = some d → Traces ms kind id d
  /-- Whatever is called next, the last stamp will not be an earlier one. -/
  latest_le : ∀ supply c, s.latest ≤ (s.call supply c).2.1.latest
  /-- Whatever is called next, no stamp that it assigns will be before the last. -/
  stamped : ∀ supply c, ∀ m ∈ s.marks supply c, m.IsStamp → s.latest ≤ m.instant

/--
**Time does not run backwards in a store.** Whatever calls are made of it, refused or not, and
whatever its clock reads, the last stamp never becomes an earlier one, every stamp is at least as
late as all that the store has assigned or taken in before, no element is later than the last stamp,
and an element keeps the date of its creation and the order in which its date-times were.
-/
theorem chronicle_history (policy : Policy) (cs : List (Supply × Call)) :
    Chronicle ((Store.empty policy).history cs).1 ((Store.empty policy).history cs).2 := by
  have h := (Store.empty policy).advances_history cs
  have hempty : (Store.empty policy).timetable = fun _ _ => none := by
    funext kind id
    cases kind <;> rfl
  have htraced := fun kind id d hd =>
    traces_of_follows (hempty ▸ h.follows) h.in_order (hempty ▸ h.within kind id d hd)
  exact
    { in_order := h.in_order
      created := h.created
      live := by
        intro kind id d hd
        obtain ⟨-, m, hm, rfl⟩ := htraced kind id d hd
        exact h.noted m hm
      traces := fun kind id d hd => (htraced kind id d hd).1
      latest_le := fun supply c => (advances_call _ supply c).latest_le
      stamped := fun supply c => (advances_call _ supply c).stamped }

end Store

end PropertyGraph
