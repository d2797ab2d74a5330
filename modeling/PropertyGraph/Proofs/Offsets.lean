import PropertyGraph.Proofs.Chronology

/-!
# Offsets of stamps

A store reads its clock in universal time, but a stamp is not always such a reading. If the last
stamp is later, it is handed out again as it is, and the last stamp may have come in from outside,
where a date-time can have any offset. So a stamp always has an offset, and if it is not that of
universal time, then the stamp is the date-time of an element that was taken in before.

Stamps become last stamps and are handed out again. Followed back to where they were not stamps of
the store yet, they end at a clock or at an element that was taken in: `Drawn`.
-/

namespace PropertyGraph

/-- The date-times that the store assigned itself to the element of a mark. -/
def Mark.stamps (m : Mark) : List DateTime :=
  match m.cause with
  | .created => [m.dates.createdAt, m.dates.updatedAt]
  | .updated => [m.dates.updatedAt]
  | .imported => []

namespace Store

variable {s t : Store} {ms ns : List Mark} {u : DateTime}

/--
Where a stamp comes from, if `last` was the last one at first, and `ms` are the marks since then:
from a clock, from that last stamp, or from an element that was taken in.
-/
inductive Drawn (last : Option DateTime) (ms : List Mark) : DateTime → Prop where
  | read (reading : Int) : Drawn last ms (.ofInstant reading)
  | kept {u : DateTime} (h : last = some u) : Drawn last ms u
  | taken {m : Mark} (hm : m ∈ ms) (hcause : m.cause = .imported) :
    Drawn last ms m.dates.updatedAt.withOffset

theorem Drawn.mono {last : Option DateTime} (h : Drawn last ms u) (hsub : ms ⊆ ns) :
    Drawn last ns u := by
  cases h with
  | read reading => exact .read reading
  | kept hlast => exact .kept hlast
  | taken hm hcause => exact .taken (hsub hm) hcause

/-- What a later stamp has from the last one comes from where that one does. -/
theorem Drawn.trans {last last' : Option DateTime} (h : Drawn last' ns u)
    (hlast : ∀ x, last' = some x → Drawn last ms x) : Drawn last (ms ++ ns) u := by
  cases h with
  | read reading => exact .read reading
  | kept h => exact (hlast u h).mono (List.subset_append_left _ _)
  | taken hm hcause => exact .taken (List.mem_append_right _ hm) hcause

theorem drawn_stamp (s : Store) (supply : Supply) (ms : List Mark) :
    Drawn s.lastStamp ms (s.stamp supply).1 := by
  show Drawn s.lastStamp ms (s.stampFor supply.clock.read.1)
  unfold stampFor
  cases hlast : s.lastStamp with
  | none => exact .read _
  | some last =>
    unfold DateTime.laterOf
    dsimp only
    split
    · exact .kept rfl
    · exact .read _

/-- A trail whose stamps all come from somewhere. -/
structure Draws (s : Store) (ms : List Mark) (t : Store) : Prop where
  last : ∀ u, t.lastStamp = some u → Drawn s.lastStamp ms u
  stamped : ∀ before m after, ms = before ++ m :: after → m.IsStamp →
    Drawn s.lastStamp before m.dates.updatedAt

namespace Draws

/-- Nothing is put in. -/
theorem silent (hlast : ∀ u, t.lastStamp = some u → Drawn s.lastStamp [] u) : s.Draws [] t where
  last := hlast
  stamped := fun before _ _ h => absurd h (by simp)

/-- One element is put in. -/
theorem single {m : Mark} (hlast : ∀ u, t.lastStamp = some u → Drawn s.lastStamp [m] u)
    (hstamped : m.IsStamp → Drawn s.lastStamp [] m.dates.updatedAt) : s.Draws [m] t where
  last := hlast
  stamped := by
    intro before m' after h hstamp
    obtain ⟨rfl, rfl, -⟩ : before = [] ∧ m' = m ∧ after = [] := by
      simpa using List.singleton_eq_append_iff.mp h
    exact hstamped hstamp

theorem trans {u : Store} (h : s.Draws ms t) (h' : t.Draws ns u) : s.Draws (ms ++ ns) u where
  last := fun x hx => (h'.last x hx).trans h.last
  stamped := by
    intro before m after hsplit hstamp
    rcases List.append_eq_append_iff.mp hsplit with
      ⟨between, rfl, hns⟩ | ⟨between, hms, hrest⟩
    · exact (h'.stamped between m after hns hstamp).trans h.last
    · cases between with
      | nil =>
        rw [List.append_nil] at hms
        have hfirst := (h'.stamped [] m after hrest.symm hstamp).trans h.last
        rwa [List.append_nil, hms] at hfirst
      | cons m' between =>
        obtain ⟨rfl, -⟩ := List.cons.inj hrest
        exact h.stamped before m between hms hstamp

end Draws

/-- **Stamps come from clocks and from what was taken in.** -/
theorem Passage.draws (h : s.Passage ms t) : s.Draws ms t := by
  induction h with
  | removed hlast hn hr => exact .silent fun u hu => .kept (hlast.symm.trans hu)
  | stamped s supply =>
    refine .silent fun u hu => ?_
    rw [← Option.some.inj hu]
    exact drawn_stamp s supply []
  | @put s t m supply hlast hstamp hcreated hupdated htable =>
    refine .single (fun u hu => ?_) fun _ => ?_
    · rw [← Option.some.inj (hlast.symm.trans hu)]
      exact drawn_stamp s supply [m]
    · rw [hstamp]
      exact drawn_stamp s supply []
  | @taken s t m hcause hlast htable =>
    refine .single (fun u hu => ?_) fun hstamp => absurd hcause hstamp
    -- the last stamp stays, or the date-time of the element takes its place
    have htaken : Drawn s.lastStamp [m] m.dates.updatedAt.withOffset :=
      .taken List.mem_cons_self hcause
    have hnoted := hlast.symm.trans hu
    unfold noteStamp at hnoted
    cases hold : s.lastStamp with
    | none =>
      rw [hold] at hnoted htaken
      rwa [← Option.some.inj hnoted]
    | some last =>
      rw [hold] at hnoted htaken
      rw [← Option.some.inj hnoted]
      show Drawn (some last) [m] (last.laterOf m.dates.updatedAt.withOffset)
      unfold DateTime.laterOf
      split
      · exact htaken
      · exact .kept rfl
  | trans _ _ ih ih' => exact ih.trans ih'

/-! ## What a trail tells of offsets -/

/-- A date-time that is counted as one of universal time, or with its offset, as it was. -/
theorem offset_withOffset (u : DateTime) :
    u.withOffset.offset = some 0 ∨ u.withOffset = u := by
  obtain ⟨wall, offset⟩ := u
  cases offset with
  | none => exact Or.inl rfl
  | some o => exact Or.inr rfl

/-- A creation has one stamp, so all stamps of a mark are the date of the update. -/
theorem Advances.eq_of_mem_stamps (h : s.Advances ms t) {m : Mark} (hm : m ∈ ms)
    (hu : u ∈ m.stamps) : m.IsStamp ∧ u = m.dates.updatedAt := by
  unfold Mark.stamps at hu
  unfold Mark.IsStamp
  cases hcause : m.cause with
  | created =>
    rw [hcause] at hu
    have hsame := h.created m hm hcause
    rw [hsame] at hu
    exact ⟨by decide, by simpa using hu⟩
  | updated =>
    rw [hcause] at hu
    exact ⟨by decide, List.mem_singleton.mp hu⟩
  | imported =>
    rw [hcause] at hu
    exact absurd hu List.not_mem_nil

/-- The next stamp is one of universal time, unless a last stamp that is not lies ahead. -/
theorem stamp_offset_iff (s : Store) (supply : Supply) :
    (s.stamp supply).1.offset = some 0
      ↔ ∀ last, s.lastStamp = some last → supply.clock.read.1 < last.instant →
        last.offset = some 0 := by
  show (s.stampFor supply.clock.read.1).offset = some 0 ↔ _
  unfold stampFor
  cases hlast : s.lastStamp with
  | none => simp [DateTime.ofInstant]
  | some last =>
    unfold DateTime.laterOf
    rw [DateTime.instant_ofInstant]
    dsimp only
    by_cases hlt : supply.clock.read.1 < last.instant
    · rw [if_pos hlt]
      simp [hlt]
    · rw [if_neg hlt]
      simp [hlt, DateTime.ofInstant]

/-- What offsets the stamps in the trail of a run from an empty store have. -/
structure Timekeeping (ms : List Mark) (s : Store) : Prop where
  /-- Every stamp tells its offset from universal time. -/
  aware : ∀ m ∈ ms, ∀ u ∈ m.stamps, ∃ o, u.offset = some o
  /-- One with another offset than none is the date-time of an element that was taken in before. -/
  source : ∀ before m after, ms = before ++ m :: after → ∀ u ∈ m.stamps, u.offset ≠ some 0 →
    ∃ m' ∈ before, m'.cause = .imported ∧ m'.dates.updatedAt = u
  /-- If all that is taken in is in universal time, or does not tell, then so are the stamps. -/
  universal : (∀ m ∈ ms, m.cause = .imported → m.dates.updatedAt.offset.getD 0 = 0) →
    ∀ m ∈ ms, ∀ u ∈ m.stamps, u.offset = some 0
  /-- The next stamp is in universal time, unless a last stamp that is not lies ahead. -/
  next : ∀ supply, (s.stamp supply).1.offset = some 0
    ↔ ∀ last, s.lastStamp = some last → supply.clock.read.1 < last.instant →
      last.offset = some 0

/--
**Stamps are in universal time, or came in from outside.** Whatever calls are made of a store, and
whatever its clock reads, all date-times that it assigns tell their offsets. An offset other than
that of universal time occurs only where the stamp is handed on from an element that was taken in
before, and a last stamp of this kind is handed on as long as the clock is behind it.
-/
theorem timekeeping_history (policy : Policy) (cs : List (Supply × Call)) :
    Timekeeping ((Store.empty policy).history cs).1 ((Store.empty policy).history cs).2 := by
  have hadvances := (Store.empty policy).advances_history cs
  have hdraws := ((Store.empty policy).passage_history cs).draws
  generalize ((Store.empty policy).history cs).1 = ms at hadvances hdraws
  have hdrawn : ∀ before m after, ms = before ++ m :: after → ∀ u ∈ m.stamps,
      Drawn none before u := by
    intro before m after hsplit u hu
    have hm : m ∈ ms := hsplit ▸ List.mem_append_right before List.mem_cons_self
    obtain ⟨hstamp, rfl⟩ := hadvances.eq_of_mem_stamps hm hu
    exact hdraws.stamped before m after hsplit hstamp
  have hsource : ∀ before m after, ms = before ++ m :: after → ∀ u ∈ m.stamps,
      u.offset ≠ some 0 → ∃ m' ∈ before, m'.cause = .imported ∧ m'.dates.updatedAt = u := by
    intro before m after hsplit u hu hother
    cases hdrawn before m after hsplit u hu with
    | read reading => exact absurd rfl hother
    | kept hlast => exact absurd hlast (by simp)
    | @taken m' hm' hcause =>
      rcases offset_withOffset m'.dates.updatedAt with hzero | hsame
      · exact absurd hzero hother
      · exact ⟨m', hm', hcause, hsame.symm⟩
  have haware : ∀ m ∈ ms, ∀ u ∈ m.stamps, ∃ o, u.offset = some o := by
    intro m hm u hu
    obtain ⟨before, after, hsplit⟩ := List.append_of_mem hm
    cases hdrawn before m after hsplit u hu with
    | read reading => exact ⟨0, rfl⟩
    | kept hlast => exact absurd hlast (by simp)
    | @taken m' hm' hcause => exact ⟨_, rfl⟩
  constructor
  case aware => exact haware
  case source => exact hsource
  case universal =>
    intro htaken m hm u hu
    by_contra hother
    obtain ⟨before, after, hsplit⟩ := List.append_of_mem hm
    obtain ⟨m', hm', hcause, rfl⟩ := hsource before m after hsplit u hu hother
    obtain ⟨o, ho⟩ := haware m hm _ hu
    have hzero := htaken m' (hsplit ▸ List.mem_append_left _ hm') hcause
    rw [ho] at hzero hother
    exact hother (congrArg some hzero)
  case next => exact stamp_offset_iff _

/-- A node whose last update lies in the future, told with an offset of two hours. -/
theorem not_universal_history :
    let ahead : DateTime := ⟨7200000001, some 7200⟩
    let g : Snapshot := ⟨[⟨"a", "T", ∅, [], ahead, ahead⟩], [], none, none⟩
    let supply : Supply := ⟨⟨[], fun _ => "", 0⟩, .still 0⟩
    let cs := [(supply, .importSnapshot g),
      (supply, .createNode ⟨.text "T", [], [], some (.text "b")⟩)]
    ∃ m ∈ ((Store.empty ⟨true, true⟩).history cs).1, m.cause = .created
      ∧ m.stamps = [ahead, ahead] ∧ ahead.offset ≠ some 0 := by
  decide +kernel

end Store

end PropertyGraph
