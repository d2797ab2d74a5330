import PropertyGraph.Proofs.Lineage
import PropertyGraph.Proofs.Publishing
import PropertyGraph.Proofs.Restore

/-!
# Lifetimes of elements

An element lives as long as no call removes it, and it can move: a snapshot that was taken while it
was there brings it into the store that imports or restores the snapshot, be it the same store at a
later time or another one. `Later` are the stores that are come to in this way.

Through all of it an element keeps what lasts. A call that spares the element keeps it by what its
edits say, and what a snapshot carries is the element as it was, or as it was stored.
-/

namespace PropertyGraph

/-- A snapshot with the elements of another, as they are or as they have been stored. -/
def Snapshot.Carries (g g' : Snapshot) : Prop :=
  (g.nodes = g'.nodes ∧ g.relationships = g'.relationships)
    ∨ (g.nodes = g'.stored.nodes ∧ g.relationships = g'.stored.relationships)

/-- Whether a snapshot has an element of a kind, with what lasts of it. -/
def Snapshot.Has (g : Snapshot) : ElementKind → Lasting → Prop
  | .node, l => ∃ n ∈ g.nodes, n.lasting = l
  | .relationship, l => ∃ r ∈ g.relationships, r.lasting = l

/-- The snapshot that a call puts into a store. -/
def Call.brings? : Call → Option Snapshot
  | .importSnapshot g => some g
  | .restore a blob => (a.load blob).toOption
  | _ => none

theorem Snapshot.Carries.has {g g' : Snapshot} (h : g.Carries g') {kind : ElementKind}
    {l : Lasting} (hl : g'.Has kind l) : g.Has kind l := by
  cases kind with
  | node =>
    obtain ⟨n, hn, hlasting⟩ := hl
    rcases h with ⟨hsame, -⟩ | ⟨hstored, -⟩
    · exact ⟨n, hsame ▸ hn, hlasting⟩
    · exact ⟨n.stored, hstored ▸ List.mem_map_of_mem hn, hlasting⟩
  | relationship =>
    obtain ⟨r, hr, hlasting⟩ := hl
    rcases h with ⟨-, hsame⟩ | ⟨-, hstored⟩
    · exact ⟨r, hsame ▸ hr, hlasting⟩
    · exact ⟨r.stored, hstored ▸ List.mem_map_of_mem hr, hlasting⟩

namespace Store

open Edit (Spare)

variable {s t u : Store} {kind : ElementKind} {id : String} {l : Lasting}

/--
The stores that come after a given one and in which an element that was in that one is still alive.
-/
inductive Later (kind : ElementKind) (id : String) (s : Store) : Store → Prop where
  | refl : Later kind id s s
  /-- After a call, refused or not, that does not remove the element. -/
  | call {t : Store} (h : Later kind id s t) (supply : Supply) {c : Call} (hc : c.Sourced)
    (hspare : Spare (t.edits supply c) kind id) : Later kind id s (t.call supply c).2.1
  /-- After a snapshot of a store in which the element is alive has been put into any store. -/
  | brought {t u : Store} (h : Later kind id s t) (hu : Reachable u) (supply : Supply) {c : Call}
    (hc : c.Sourced) {g : Snapshot} (hg : c.brings? = some g) (hcarries : g.Carries t.snapshot)
    (hok : (u.call supply c).1 = none) : Later kind id s (u.call supply c).2.1

/-- A run that spares the element leads to a later store. -/
theorem Later.after (h : Later kind id s t) {cs : List (Supply × Call)}
    (hcs : ∀ x ∈ cs, x.2.Sourced) (hspare : Spare (t.trail cs) kind id) :
    Later kind id s (t.after cs) := by
  induction cs generalizing t with
  | nil => exact h
  | cons x cs ih =>
    obtain ⟨hfirst, hrest⟩ := Edit.spare_append.mp hspare
    have hnext := h.call x.1 (hcs x List.mem_cons_self) hfirst
    exact ih hnext (fun x' hx' => hcs x' (List.mem_cons_of_mem _ hx')) hrest

theorem Later.reachable (hs : Reachable s) (h : Later kind id s t) : Reachable t := by
  induction h with
  | refl => exact hs
  | call _ supply hc _ ih => exact Site.reachable_call ih supply hc
  | brought _ hu supply hc _ _ _ _ => exact Site.reachable_call hu supply hc

/-! ## What lasts -/

/-- What is spared by a call keeps what lasts. -/
theorem has_call (ht : t.Sound) (supply : Supply) {c : Call}
    (hspare : Spare (t.edits supply c) kind l.id) (h : t.snapshot.Has kind l) :
    (t.call supply c).2.1.snapshot.Has kind l := by
  have hdescends := descends_call ht supply c
  cases kind with
  | node =>
    obtain ⟨n, hn, rfl⟩ := h
    obtain ⟨k, hk⟩ := OrderedMap.mem_values.mp hn
    obtain rfl : k = n.id := ht.nodes_keyed _ hk
    obtain ⟨e, he, hkeeps⟩ := hdescends.nodes.exists_keeps hk hspare
    exact ⟨e.2, List.mem_map_of_mem he, hkeeps.lasting⟩
  | relationship =>
    obtain ⟨r, hr, rfl⟩ := h
    obtain ⟨k, hk⟩ := OrderedMap.mem_values.mp hr
    obtain rfl : k = r.id := ht.relationships_keyed _ hk
    obtain ⟨e, he, hkeeps⟩ := hdescends.relationships.exists_keeps hk hspare
    exact ⟨e.2, List.mem_map_of_mem he, hkeeps.lasting⟩

theorem has_takeSnapshot {g : Snapshot} (hadmits : u.Admits g) (h : g.Has kind l) :
    (u.takeSnapshot g).snapshot.Has kind l := by
  cases kind with
  | node =>
    obtain ⟨n, hn, hlasting⟩ := h
    refine ⟨n, OrderedMap.mem_values.mpr ⟨n.id, ?_⟩, hlasting⟩
    rw [entries_nodes_takeSnapshot hadmits]
    exact List.mem_append_right _ (List.mem_map_of_mem hn)
  | relationship =>
    obtain ⟨r, hr, hlasting⟩ := h
    refine ⟨r, OrderedMap.mem_values.mpr ⟨r.id, ?_⟩, hlasting⟩
    rw [entries_relationships_takeSnapshot hadmits]
    exact List.mem_append_right _ (List.mem_map_of_mem hr)

theorem taken_of_restore {a : Archive} {blob : String} {g : Snapshot} {counts : Nat × Nat}
    (hload : a.load blob = .ok g) (h : (u.restore a blob).1 = .ok counts) :
    u.clear.Admits g ∧ (u.restore a blob).2 = u.clear.takeSnapshot g := by
  rw [restore_of_load hload] at h ⊢
  rcases replaceWith_cases u g with ⟨e, -, heq⟩ | ⟨hadmits, heq⟩
  · rw [heq] at h
    exact absurd h (by simp [Except.mapError])
  · rw [heq]
    exact ⟨hadmits, rfl⟩

/-- What a snapshot has is in the store that it is put into. -/
theorem has_of_brings {supply : Supply} {c : Call} {g : Snapshot} (hg : c.brings? = some g)
    (hok : (u.call supply c).1 = none) (h : g.Has kind l) :
    (u.call supply c).2.1.snapshot.Has kind l := by
  cases c with
  | importSnapshot g' =>
    obtain rfl := Option.some.inj hg
    obtain ⟨counts, hcounts⟩ : ∃ counts, (u.importSnapshot g').1 = .ok counts := exists_ok hok
    obtain ⟨hadmits, hleft⟩ := taken_of_importSnapshot (Prod.ext hcounts rfl)
    have htaken := has_takeSnapshot hadmits h
    rwa [← hleft] at htaken
  | restore a blob =>
    obtain ⟨counts, hcounts⟩ : ∃ counts, (u.restore a blob).1 = .ok counts := exists_ok hok
    have hread : (a.load blob).toOption = some g := hg
    have hload : a.load blob = .ok g := by
      cases hblob : a.load blob with
      | ok g' =>
        rw [hblob] at hread
        exact congrArg Except.ok (Option.some.inj hread)
      | error f =>
        rw [hblob] at hread
        exact absurd hread (by simp [Except.toOption])
    obtain ⟨hadmits, hleft⟩ := taken_of_restore hload hcounts
    have htaken := has_takeSnapshot hadmits h
    rwa [← hleft] at htaken
  | _ => exact absurd hg (by simp [Call.brings?])

/-- **An element keeps what lasts as long as it lives.** -/
theorem Later.has (hs : Reachable s) (h : Later kind l.id s t) (hl : s.snapshot.Has kind l) :
    t.snapshot.Has kind l := by
  induction h with
  | refl => exact hl
  | call hlater supply hc hspare ih =>
    exact has_call (sound_of_reachable (hlater.reachable hs)) supply hspare ih
  | brought _ _ _ _ hg hcarries hok ih => exact has_of_brings hg hok (hcarries.has ih)

end Store

end PropertyGraph
