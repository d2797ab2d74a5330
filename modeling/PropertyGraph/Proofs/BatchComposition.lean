import PropertyGraph.Proofs.Batch
import PropertyGraph.Proofs.CreationLine
import PropertyGraph.Proofs.Operations

/-!
# Batches in turn

Running two texts as one batch is running one and then, unless it stops, the other: nothing is
rolled back, and nothing carries over but the store and the supply. That is `runBatch_append`. It
holds for every stop, and also for the one that no report tells of: an integer with too many digits.

The one thing in the way is the clock. Each batch reads it once more than its commands do, so the
runs that are compared have read it a different number of times. While it stands still, that cannot
be seen: `Supply.Alike` supplies give the same answers and stay alike.
-/

namespace PropertyGraph

open Batch
open Command (onesLine)

/-! ## Supplies that cannot be told apart -/

/-- The clock reads the same whenever it is read. -/
def Clock.StandsStill (c : Clock) : Prop := ∀ i j, c.readings i = c.readings j

/-- Supplies that hand out the same tokens and the same readings, for the clock stands still. -/
structure Supply.Alike (a b : Supply) : Prop where
  /-- The tokens are the same. -/
  tokens : a.tokens = b.tokens
  /-- The clocks are the same, but may have been read a different number of times. -/
  readings : a.clock.readings = b.clock.readings
  /-- The clocks stand still. -/
  still : a.clock.StandsStill

namespace Supply.Alike

variable {a b : Supply}

theorem refl (h : a.clock.StandsStill) : a.Alike a := ⟨rfl, rfl, h⟩

theorem symm (h : a.Alike b) : b.Alike a where
  tokens := h.tokens.symm
  readings := h.readings.symm
  still := by
    intro i j
    rw [← h.readings]
    exact h.still i j

theorem reading (h : a.Alike b) : a.clock.read.1 = b.clock.read.1 := by
  show a.clock.readings a.clock.taken = b.clock.readings b.clock.taken
  rw [← h.readings]
  exact h.still _ _

/-- Reading the clock once more cannot be seen. -/
theorem read (h : a.clock.StandsStill) : a.Alike { a with clock := a.clock.read.2 } := ⟨rfl, rfl, h⟩

theorem readBoth (h : a.Alike b) :
    Supply.Alike { a with clock := a.clock.read.2 } { b with clock := b.clock.read.2 } :=
  ⟨h.tokens, h.readings, h.still⟩

theorem withTokens (h : a.Alike b) (tokens : TokenSource) :
    Supply.Alike { a with tokens } { b with tokens } := ⟨rfl, h.readings, h.still⟩

end Supply.Alike

namespace Store

variable {a b : Supply}

theorem stamp_alike (s : Store) (h : a.Alike b) :
    (s.stamp a).1 = (s.stamp b).1 ∧ s.stamped a = s.stamped b
      ∧ (s.stamp a).2.2.Alike (s.stamp b).2.2 := by
  -- the stamp is all that depends on the reading
  have ht : (s.stamp a).1 = (s.stamp b).1 := congrArg s.stampFor h.reading
  refine ⟨ht, ?_, h.tokens, h.readings, h.still⟩
  show { s with lastStamp := some (s.stamp a).1 } = { s with lastStamp := some (s.stamp b).1 }
  rw [ht]

theorem createNode_alike (s : Store) (draft : NodeDraft) (h : a.Alike b) :
    (s.createNode draft a).1 = (s.createNode draft b).1
      ∧ (s.createNode draft a).2.1 = (s.createNode draft b).2.1
      ∧ (s.createNode draft a).2.2.Alike (s.createNode draft b).2.2 := by
  unfold createNode
  rw [h.tokens]
  cases draftType? draft.type with
  | none => exact ⟨rfl, rfl, h⟩
  | some type =>
    dsimp only
    cases newId draft.id nodeWord s.hasNode b.tokens with
    | mk r tokens =>
      have h' := h.withTokens tokens
      cases r with
      | error e => exact ⟨rfl, rfl, h'⟩
      | ok id =>
        obtain ⟨ht, hs, hb⟩ := s.stamp_alike h'
        dsimp only [stamped] at hs ⊢
        rw [ht, hs]
        cases Node.check id type (OrderedMap.ofList draft.properties).entries draft.labels _ _ with
        | refused vs => exact ⟨rfl, rfl, hb⟩
        | accepted n => exact ⟨rfl, rfl, hb⟩

/-- A command cannot tell alike supplies apart. -/
theorem step_alike (x y : Store × Supply) (c : Command) (h : x.1 = y.1 ∧ x.2.Alike y.2) :
    (step x c).1 = (step y c).1
      ∧ (step x c).2.1 = (step y c).2.1 ∧ (step x c).2.2.Alike (step y c).2.2 := by
  obtain ⟨s, a⟩ := x
  obtain ⟨s', b⟩ := y
  obtain ⟨rfl, hab⟩ := h
  unfold step execute
  cases c.action with
  | create name type properties =>
    obtain ⟨h1, h2, h3⟩ := s.createNode_alike
      ⟨.text type, properties.entries.map fun e => (e.1, Document.scalar e.2), [], none⟩ hab
    dsimp only
    cases ha : s.createNode ⟨.text type, _, [], none⟩ a with
    | mk r p =>
      cases hb : s.createNode ⟨.text type, _, [], none⟩ b with
      | mk r' q =>
        rw [ha, hb] at h1 h2 h3
        dsimp only at h1 h2 h3
        subst h1
        cases r with
        | error e => exact ⟨rfl, h2, h3⟩
        | ok id => exact ⟨rfl, h2, h3⟩
  | clear => exact ⟨rfl, rfl, hab⟩
  | selectNodes name type returns => exact ⟨rfl, rfl, hab⟩
  | selectAllNodes => exact ⟨rfl, rfl, hab⟩
  | selectRelationships p => exact ⟨rfl, rfl, hab⟩
  | unknown => exact ⟨rfl, rfl, hab⟩

/-! ## What a command does -/

theorem step_success {x y : Store × Supply} {c : Command} {o : Outcome}
    (h : step x c = (.ok o, y)) : o.success = decide (c.action ≠ .unknown) := by
  obtain ⟨s, supply⟩ := x
  unfold step execute at h
  cases hc : c.action with
  | create name type properties =>
    rw [hc] at h
    dsimp only at h
    split at h
    · exact absurd (congrArg Prod.fst h) (by simp)
    · rw [← Except.ok.inj (congrArg Prod.fst h)]
      rfl
  | clear =>
    rw [hc] at h
    rw [← Except.ok.inj (congrArg Prod.fst h)]
    rfl
  | _ =>
    rw [hc] at h
    rw [← Except.ok.inj (congrArg Prod.fst h)]
    unfold Snapshot.execute
    rw [hc]
    rfl

theorem step_refused {x y : Store × Supply} {c : Command} {e : GraphError}
    (h : step x c = (.error e, y)) :
    y.1.nodes = x.1.nodes ∧ y.1.relationships = x.1.relationships := by
  obtain ⟨s, supply⟩ := x
  unfold step execute at h
  cases hc : c.action with
  | create name type properties =>
    rw [hc] at h
    dsimp only at h
    rcases createNode_cases s ⟨.text type, _, [], none⟩ supply with
      ⟨e', tokens, hcreate⟩ | ⟨vs, tokens, hcreate⟩ | ⟨_, tokens, n, _, _, _, hcreate⟩
    · rw [hcreate] at h
      rw [← (Prod.mk.inj h).2]
      exact ⟨rfl, rfl⟩
    · rw [hcreate] at h
      rw [← (Prod.mk.inj h).2]
      exact ⟨rfl, rfl⟩
    · rw [hcreate] at h
      exact absurd (congrArg Prod.fst h) (by simp)
  | _ =>
    rw [hc] at h
    exact absurd (congrArg Prod.fst h) (by simp)

/-! ## Single batches -/

/-- The outcomes that are successes are those of the lines that are understood. -/
theorem countP_success {shapes : List Shape} {x y : Store × Supply} {ls : List String}
    {os : List Outcome} (h : runLines shapes step x ls = (.ok os, y)) :
    os.countP Outcome.success = ls.countP (understood shapes) := by
  have hall := runLines_outcomes (Q := fun c o => o.success = decide (c.action ≠ .unknown))
    (fun _ _ _ _ hstep => step_success hstep) h
  clear h
  induction hall with
  | nil => rfl
  | cons hline _ ih =>
    obtain ⟨c, hp, ho⟩ := hline
    rw [List.countP_cons, List.countP_cons, ih, ho]
    unfold understood
    rw [hp]

/--
Where and why a batch stops. The lines before `line` are done, each with an outcome. It is not done
in the state they leave, whose elements it does not change, and no line after it is looked at.
-/
def StopsAt (s : Store) (rules : BatchRules) (supply : Supply) (text : String) (line : Nat)
    (cause : Halt GraphError) (left : Store) : Prop :=
  ∃ (h : line < (lines text).length) (os : List Outcome) (mid : Store) (midSupply rest : Supply),
    runLines rules.shapes step (s, supply) ((lines text).take line) = (.ok os, mid, midSupply)
      ∧ os.length = line
      ∧ runLines rules.shapes step (mid, midSupply) [(lines text)[line]]
          = (.error cause, left, rest)
      ∧ left.nodes = mid.nodes ∧ left.relationships = mid.relationships

theorem runBatch_of_too_long {s : Store} {rules : BatchRules} {text : String} {supply : Supply}
    (h : rules.limit < (lines text).length) :
    s.runBatch rules text supply
      = (.error (.reported ⟨.batchTooLong (lines text).length rules.limit, text,
          .ofInstant supply.clock.read.1⟩), s, { supply with clock := supply.clock.read.2 }) := by
  unfold runBatch Batch.run
  rw [if_pos h]
  rfl

/-- What a batch that stops leaves of a supply: the clock is read for the stamp of a report. -/
def afterStop (halt : Halt GraphError) (supply : Supply) : Supply :=
  match halt with
  | .reported _ => { supply with clock := supply.clock.read.2 }
  | .longNumeral _ => supply

theorem afterStop_alike (halt : Halt GraphError) (h : a.Alike b) :
    (afterStop halt a).Alike (afterStop halt b) := by
  cases halt with
  | reported e => exact h.readBoth
  | longNumeral n => exact h

section

variable (halt : Halt GraphError) (text : String) (stamp : DateTime)

theorem cause_of_stop :
    (halt.map fun cause => (⟨cause, text, stamp⟩ : BatchFailure)).map BatchFailure.cause
      = halt := by
  cases halt <;> rfl

theorem batch_of_stop (whole : String) :
    (halt.map fun cause => (⟨cause, text, stamp⟩ : BatchFailure)).map
        (fun f => { f with batch := whole })
      = halt.map fun cause => ⟨cause, whole, stamp⟩ := by
  cases halt <;> rfl

end

theorem runBatch_of_error {s t : Store} {rules : BatchRules} {text : String}
    {supply rest : Supply} {halt : Halt GraphError} (h : (lines text).length ≤ rules.limit)
    (hrun : runLines rules.shapes step (s, supply) (lines text) = (.error halt, t, rest)) :
    s.runBatch rules text supply
      = (.error (halt.map fun cause => ⟨cause, text, .ofInstant rest.clock.read.1⟩), t,
        afterStop halt rest) := by
  unfold runBatch Batch.run
  rw [if_neg (Int.not_lt.mpr h), hrun]
  cases halt <;> rfl

theorem runBatch_of_ok {s t : Store} {rules : BatchRules} {text : String}
    {supply rest : Supply} {os : List Outcome} (h : (lines text).length ≤ rules.limit)
    (hrun : runLines rules.shapes step (s, supply) (lines text) = (.ok os, t, rest)) :
    s.runBatch rules text supply = (.ok ⟨os, .ofInstant rest.clock.read.1, t.stats⟩, t,
      { rest with clock := rest.clock.read.2 }) := by
  unfold runBatch Batch.run
  rw [if_neg (Int.not_lt.mpr h), hrun]
  rfl

/-- What stops a batch that is not too long stopped the run of its lines. -/
theorem run_of_runBatch_error {s t : Store} {rules : BatchRules} {text : String}
    {supply left : Supply} {stop : Halt BatchFailure} (h : (lines text).length ≤ rules.limit)
    (hbatch : s.runBatch rules text supply = (.error stop, t, left)) :
    ∃ halt rest, runLines rules.shapes step (s, supply) (lines text) = (.error halt, t, rest)
      ∧ stop = halt.map (fun cause => ⟨cause, text, .ofInstant rest.clock.read.1⟩)
      ∧ left = afterStop halt rest := by
  cases hrun : runLines rules.shapes step (s, supply) (lines text) with
  | mk r y =>
    cases r with
    | ok os =>
      exact absurd (congrArg Prod.fst ((runBatch_of_ok h hrun).symm.trans hbatch)) (by simp)
    | error halt =>
      obtain ⟨hstop, hst⟩ := Prod.mk.inj ((runBatch_of_error h hrun).symm.trans hbatch)
      obtain ⟨rfl, rfl⟩ := Prod.mk.inj hst
      exact ⟨halt, y.2, rfl, (Except.error.inj hstop).symm, rfl⟩

theorem run_of_runBatch_ok {s t : Store} {rules : BatchRules} {text : String}
    {supply left : Supply} {r : BatchResult} (h : (lines text).length ≤ rules.limit)
    (hbatch : s.runBatch rules text supply = (.ok r, t, left)) :
    ∃ rest, runLines rules.shapes step (s, supply) (lines text) = (.ok r.outcomes, t, rest)
      ∧ r = ⟨r.outcomes, .ofInstant rest.clock.read.1, t.stats⟩
      ∧ left = { rest with clock := rest.clock.read.2 } := by
  cases hrun : runLines rules.shapes step (s, supply) (lines text) with
  | mk q y =>
    cases q with
    | error e =>
      exact absurd (congrArg Prod.fst ((runBatch_of_error h hrun).symm.trans hbatch)) (by simp)
    | ok os =>
      obtain ⟨hr, hst⟩ := Prod.mk.inj ((runBatch_of_ok h hrun).symm.trans hbatch)
      obtain ⟨rfl, rfl⟩ := Prod.mk.inj hst
      obtain rfl := Except.ok.inj hr
      exact ⟨y.2, rfl, rfl, rfl⟩

theorem elements_of_refused {shapes : List Shape} {x y : Store × Supply} {line : String}
    {halt : Halt GraphError} (h : runLines shapes step x [line] = (.error halt, y)) :
    y.1.nodes = x.1.nodes ∧ y.1.relationships = x.1.relationships := by
  rcases runLines_cons_cases shapes step x line with ⟨_, z, hz, hrun⟩ | ⟨c, o, z, hp, hc⟩
  · rw [hrun] at h
    obtain ⟨-, rfl⟩ := Prod.mk.inj h
    rcases hz with rfl | ⟨c, e, hc⟩
    · exact ⟨rfl, rfl⟩
    · exact step_refused hc
  · rw [runLines_cons hp hc] at h
    exact absurd (congrArg Prod.fst h) (by simp [runLines, Except.map])

theorem exists_stopsAt {s t : Store} {rules : BatchRules} {text : String} {supply rest : Supply}
    {halt : Halt GraphError}
    (h : runLines rules.shapes step (s, supply) (lines text) = (.error halt, t, rest)) :
    ∃ k, s.StopsAt rules supply text k halt t := by
  obtain ⟨k, os, ⟨mid, midSupply⟩, hk, hbefore, hat⟩ := exists_stop_of_error h
  refine ⟨k, hk, os, mid, midSupply, rest, hbefore, ?_, hat, elements_of_refused hat⟩
  rw [length_outcomes hbefore, List.length_take]
  omega

/-! ## Batches in turn -/

/--
Running the batch of two texts, `t` and below it `u`, is running `t` and then, unless that stops,
running `u`. The runs may differ in how often they have read the clock.
-/
structure RunsInTurn (s : Store) (rules : BatchRules) (supply : Supply) (t u : String) : Prop where
  /-- If `t` stops, the whole batch does, for the same cause, at the same line. -/
  first_stops : ∀ stop s₁ supply₁, s.runBatch rules t supply = (.error stop, s₁, supply₁) →
    ∃ supply', s.runBatch rules (t ++ "\n" ++ u) supply
        = (.error (stop.map fun f => { f with batch := t ++ "\n" ++ u }), s₁, supply')
      ∧ supply₁.Alike supply'
      ∧ ∃ k, s.StopsAt rules supply t k (stop.map BatchFailure.cause) s₁
        ∧ s.StopsAt rules supply (t ++ "\n" ++ u) k (stop.map BatchFailure.cause) s₁
  /-- If `u` stops after `t`, the whole batch does, at that line of `u`. -/
  second_stops : ∀ r s₁ supply₁ stop s₂ supply₂,
    s.runBatch rules t supply = (.ok r, s₁, supply₁) →
    s₁.runBatch rules u supply₁ = (.error stop, s₂, supply₂) →
    ∃ supply', s.runBatch rules (t ++ "\n" ++ u) supply
        = (.error (stop.map fun f => { f with batch := t ++ "\n" ++ u }), s₂, supply')
      ∧ supply₂.Alike supply'
      ∧ ∃ k, s₁.StopsAt rules supply₁ u k (stop.map BatchFailure.cause) s₂
        ∧ s.StopsAt rules supply (t ++ "\n" ++ u) ((lines t).length + k)
          (stop.map BatchFailure.cause) s₂
  /-- If neither stops, the whole batch has the outcomes of both. -/
  neither_stops : ∀ r₁ s₁ supply₁ r₂ s₂ supply₂,
    s.runBatch rules t supply = (.ok r₁, s₁, supply₁) →
    s₁.runBatch rules u supply₁ = (.ok r₂, s₂, supply₂) →
    ∃ r supply', s.runBatch rules (t ++ "\n" ++ u) supply = (.ok r, s₂, supply')
      ∧ supply₂.Alike supply'
      ∧ r.outcomes = r₁.outcomes ++ r₂.outcomes
      ∧ r.executed = r₁.executed + r₂.executed
      ∧ r.executed = (lines (t ++ "\n" ++ u)).countP (understood rules.shapes)
      ∧ r.timestamp = r₂.timestamp ∧ r.stats = s₂.stats

theorem runLines_alike (shapes : List Shape) {s : Store} (h : a.Alike b) (ls : List String) :
    (runLines shapes step (s, a) ls).1 = (runLines shapes step (s, b) ls).1
      ∧ (runLines shapes step (s, a) ls).2.1 = (runLines shapes step (s, b) ls).2.1
      ∧ (runLines shapes step (s, a) ls).2.2.Alike (runLines shapes step (s, b) ls).2.2 :=
  runLines_related step_alike ls (s, a) (s, b) ⟨rfl, h⟩

theorem runLines_alike_eq {shapes : List Shape} {s t : Store} {ls : List String} {rest : Supply}
    {r : Except (Halt GraphError) (List Outcome)} (h : a.Alike b)
    (hrun : runLines shapes step (s, a) ls = (r, t, rest)) :
    ∃ rest', runLines shapes step (s, b) ls = (r, t, rest') ∧ rest.Alike rest' := by
  obtain ⟨h1, h2, h3⟩ := runLines_alike shapes (s := s) h ls
  rw [hrun] at h1 h2 h3
  exact ⟨(runLines shapes step (s, b) ls).2.2, Prod.ext h1.symm (Prod.ext h2.symm rfl), h3⟩

theorem StopsAt.of_alike {s left : Store} {rules : BatchRules} {text : String} {k : Nat}
    {halt : Halt GraphError} (h : a.Alike b) (hs : s.StopsAt rules a text k halt left) :
    s.StopsAt rules b text k halt left := by
  obtain ⟨hk, os, mid, midSupply, rest, hbefore, hlen, hat, hleft⟩ := hs
  obtain ⟨midSupply', hbefore', hmid⟩ := runLines_alike_eq h hbefore
  obtain ⟨rest', hat', _⟩ := runLines_alike_eq hmid hat
  exact ⟨hk, os, mid, midSupply', rest', hbefore', hlen, hat', hleft⟩

theorem StopsAt.append {s left : Store} {rules : BatchRules} {supply : Supply} {t : String}
    {k : Nat} {halt : Halt GraphError} (h : s.StopsAt rules supply t k halt left) (u : String) :
    s.StopsAt rules supply (t ++ "\n" ++ u) k halt left := by
  obtain ⟨hk, os, mid, midSupply, rest, hbefore, hlen, hat, hleft⟩ := h
  unfold StopsAt
  rw [lines_append]
  refine ⟨?_, os, mid, midSupply, rest, ?_, hlen, ?_, hleft⟩
  · rw [List.length_append]
    omega
  · rw [List.take_append_of_le_length (Nat.le_of_lt hk)]
    exact hbefore
  · rw [List.getElem_append_left hk]
    exact hat

theorem StopsAt.after {s s₁ left : Store} {rules : BatchRules} {supply mid₁ : Supply}
    {t u : String} {os₁ : List Outcome} {k : Nat} {halt : Halt GraphError}
    (hfirst : runLines rules.shapes step (s, supply) (lines t) = (.ok os₁, s₁, mid₁))
    (h : s₁.StopsAt rules mid₁ u k halt left) :
    s.StopsAt rules supply (t ++ "\n" ++ u) ((lines t).length + k) halt left := by
  obtain ⟨hk, os, mid, midSupply, rest, hbefore, hlen, hat, hleft⟩ := h
  unfold StopsAt
  rw [lines_append]
  refine ⟨?_, os₁ ++ os, mid, midSupply, rest, ?_, ?_, ?_, hleft⟩
  · rw [List.length_append]
    omega
  · rw [List.take_length_add_append, runLines_append_of_ok hfirst, hbefore]
    rfl
  · rw [List.length_append, hlen, length_outcomes hfirst]
  · rw [List.getElem_append_right (Nat.le_add_right _ _)]
    simpa using hat

/-- Two batches that are short enough together run in turn. -/
theorem runsInTurn {s : Store} {rules : BatchRules} {supply : Supply} {t u : String}
    (still : supply.clock.StandsStill)
    (short : ((lines t).length + (lines u).length : Int) ≤ rules.limit) :
    s.RunsInTurn rules supply t u := by
  have hboth : ((lines (t ++ "\n" ++ u)).length : Int) ≤ rules.limit := by
    rw [lines_append, List.length_append]
    omega
  have ht : ((lines t).length : Int) ≤ rules.limit := by omega
  have hu : ((lines u).length : Int) ≤ rules.limit := by omega
  -- the lines of the first text leave the clock standing
  have hstill : ∀ {r s₁ mid}, runLines rules.shapes step (s, supply) (lines t) = (r, s₁, mid) →
      mid.clock.StandsStill := by
    intro r s₁ mid hrun
    obtain ⟨_, _, hmid⟩ := runLines_alike_eq (Supply.Alike.refl still) hrun
    exact hmid.still
  constructor
  case first_stops =>
    intro stop s₁ supply₁ h
    obtain ⟨halt, mid, hrun, rfl, rfl⟩ := run_of_runBatch_error ht h
    have hwhole : runLines rules.shapes step (s, supply) (lines (t ++ "\n" ++ u))
        = (.error halt, s₁, mid) := by
      rw [lines_append]
      exact runLines_append_of_error hrun _
    obtain ⟨k, hk⟩ := exists_stopsAt hrun
    rw [cause_of_stop, batch_of_stop]
    exact ⟨afterStop halt mid, runBatch_of_error hboth hwhole,
      afterStop_alike halt (Supply.Alike.refl (hstill hrun)), k, hk, hk.append u⟩
  case second_stops =>
    intro r s₁ supply₁ stop s₂ supply₂ h₁ h₂
    obtain ⟨mid, hrun₁, -, rfl⟩ := run_of_runBatch_ok ht h₁
    obtain ⟨halt, mid₂, hrun₂, rfl, rfl⟩ := run_of_runBatch_error hu h₂
    -- the reading that `t` ended with is the only difference to the whole batch
    obtain ⟨mid₂', hrun₂', halike⟩ :=
      runLines_alike_eq (Supply.Alike.read (hstill hrun₁)).symm hrun₂
    have hwhole : runLines rules.shapes step (s, supply) (lines (t ++ "\n" ++ u))
        = (.error halt, s₂, mid₂') := by
      rw [lines_append, runLines_append_of_ok hrun₁, hrun₂']
      rfl
    obtain ⟨k, hk⟩ := exists_stopsAt hrun₂
    have hk' := hk.of_alike (Supply.Alike.read (hstill hrun₁)).symm
    rw [cause_of_stop, batch_of_stop, halike.reading]
    exact ⟨afterStop halt mid₂', runBatch_of_error hboth hwhole, afterStop_alike halt halike, k, hk,
      hk'.after hrun₁⟩
  case neither_stops =>
    intro r₁ s₁ supply₁ r₂ s₂ supply₂ h₁ h₂
    obtain ⟨mid, hrun₁, -, rfl⟩ := run_of_runBatch_ok ht h₁
    obtain ⟨mid₂, hrun₂, hr₂, rfl⟩ := run_of_runBatch_ok hu h₂
    obtain ⟨mid₂', hrun₂', halike⟩ :=
      runLines_alike_eq (Supply.Alike.read (hstill hrun₁)).symm hrun₂
    have hwhole : runLines rules.shapes step (s, supply) (lines (t ++ "\n" ++ u))
        = (.ok (r₁.outcomes ++ r₂.outcomes), s₂, mid₂') := by
      rw [lines_append, runLines_append_of_ok hrun₁, hrun₂']
      rfl
    refine ⟨_, _, runBatch_of_ok hboth hwhole, halike.readBoth, rfl, List.countP_append,
      countP_success hwhole, ?_, rfl⟩
    rw [hr₂, halike.reading]

/--
**A batch does what its parts do in turn.** A batch over the limit stops before its first line. One
that stops counts no command as executed, if its stop is reported; only a numeral with too many
digits is not. While the clock stands still, the batch of two texts that are short enough together
is the batch of the one and then, unless that stops, of the other.
-/
theorem runBatch_append (s : Store) (rules : BatchRules) (supply : Supply) :
    (∀ text, rules.limit < (lines text).length →
      ∃ f left, s.runBatch rules text supply = (.error (.reported f), s, left)
        ∧ f.cause = .batchTooLong (lines text).length rules.limit
        ∧ left.tokens = supply.tokens)
    ∧ (∀ stop, (∃ d, reply? (.error stop) = some d ∧ d.get? "executedCommands" = some (.int 0))
      ∨ ∃ n, stop = .longNumeral n ∧ reply? (.error stop) = none)
    ∧ ∀ t u, supply.clock.StandsStill →
      ((lines t).length + (lines u).length : Int) ≤ rules.limit →
      s.RunsInTurn rules supply t u := by
  refine ⟨?_, ?_, fun t u still short => runsInTurn still short⟩
  · intro text h
    exact ⟨_, _, runBatch_of_too_long h, rfl, rfl⟩
  · rintro (f | n)
    · exact Or.inl ⟨_, rfl, rfl⟩
    · exact Or.inr ⟨n, rfl, rfl⟩

/-- Two tokens are there to be drawn, and the clock stands still. -/
def twoTokens : Supply := ⟨⟨["a", "b"], fun _ => "", 0⟩, .still 0⟩

/-- A creation and a selection. -/
def selecting : String := "CREATE (v:A \x7bn: 1\x7d)\nMATCH (v:A) RETURN v"

/-- A line that is not understood and a creation. -/
def creating : String := "NOTHING\nCREATE (w:B)"

/-- A creation and a line that is refused. -/
def breaking : String := "CREATE (w:B)\nCREATE w"

/-- Texts that create nodes and draw their ids are run as one batch or as two, and where one of them
stops, what was done before stays done and what comes after is not. -/
theorem runBatch_append_created :
    let start := Store.empty ⟨true, true⟩
    let failure := fun text => Halt.reported
      (⟨.command (.malformedCreate "CREATE w"), text, .ofInstant 0⟩ : BatchFailure)
    (∃ r s rest, start.runBatch ⟨Shape.all, 4⟩ (selecting ++ "\n" ++ creating) twoTokens
        = (.ok r, s, rest)
      ∧ r.executed = 3 ∧ s.nodes.keys = ["node_a", "node_b"] ∧ rest.tokens.queued = [])
    ∧ (∃ s rest, start.runBatch ⟨Shape.all, 4⟩ (selecting ++ "\n" ++ breaking) twoTokens
        = (.error (failure (selecting ++ "\n" ++ breaking)), s, rest)
      ∧ s.nodes.keys = ["node_a", "node_b"] ∧ rest.tokens.queued = [])
    ∧ ∃ s rest, start.runBatch ⟨Shape.all, 4⟩ (breaking ++ "\n" ++ selecting) twoTokens
        = (.error (failure (breaking ++ "\n" ++ selecting)), s, rest)
      ∧ s.nodes.keys = ["node_a"] ∧ rest.tokens.queued = ["b"] := by
  have hturn := fun t u => (runBatch_append (.empty ⟨true, true⟩) ⟨Shape.all, 4⟩ twoTokens).2.2 t u
    fun _ _ => rfl
  refine ⟨?_, ?_, ?_⟩
  · obtain ⟨r, rest, h, halike, -, hsum, -⟩ := (hturn selecting creating (by decide +kernel)
      ).neither_stops _ _ _ _ _ _ (by exact rfl) (by exact rfl)
    refine ⟨r, _, rest, h, hsum.trans (by decide +kernel), by decide +kernel, ?_⟩
    rw [← halike.tokens]
    decide +kernel
  · obtain ⟨rest, h, halike, -⟩ := (hturn selecting breaking (by decide +kernel)
      ).second_stops _ _ _ _ _ _ (by exact rfl) (by exact rfl)
    refine ⟨_, rest, h, by decide +kernel, ?_⟩
    rw [← halike.tokens]
    decide +kernel
  · obtain ⟨rest, h, halike, -⟩ := (hturn breaking selecting (by decide +kernel)
      ).first_stops _ _ _ (by exact rfl)
    refine ⟨_, rest, h, by decide +kernel, ?_⟩
    rw [← halike.tokens]
    decide +kernel

theorem lines_onesLine (n : Nat) : lines (onesLine n) = [onesLine n] := by
  have htrim : Text.Trimmed (onesLine n).toList := Shape.trimmed_creation "v" "T" _
  refine lines_of_line ?_ (Text.strip_of_trimmed htrim) (Shape.creation_ne_empty "v" "T" _)
  rw [onesLine, Shape.toList_creation, Command.toList_onesBody]
  simp [Literal.ones]

theorem runBatch_onesLine {n : Nat} (h : Decimal.digitLimit < n) {rules : BatchRules}
    (hshapes : rules.shapes = Shape.all) (hlimit : 1 ≤ rules.limit) (s : Store)
    (supply : Supply) :
    s.runBatch rules (onesLine n) supply = (.error (.longNumeral ⟨n⟩), s, supply) := by
  have hshort : ((lines (onesLine n)).length : Int) ≤ rules.limit := by
    rw [lines_onesLine, List.length_singleton]
    exact hlimit
  have hrun : runLines rules.shapes step (s, supply) (lines (onesLine n))
      = (.error (.longNumeral ⟨n⟩), s, supply) := by
    rw [lines_onesLine, hshapes, runLines, Command.parse_onesLine h]
    rfl
  rw [runBatch_of_error hshort hrun]
  rfl

/-- A numeral with too many digits stops a batch, and nothing is reported of it. -/
theorem not_reported_onesLine :
    (Store.empty ⟨true, true⟩).runBatch ⟨Shape.all, 1⟩ (onesLine 4301) twoTokens
        = (.error (.longNumeral ⟨4301⟩), .empty ⟨true, true⟩, twoTokens)
      ∧ reply? (.error (.longNumeral ⟨4301⟩)) = none :=
  ⟨runBatch_onesLine (by decide) rfl le_rfl (.empty ⟨true, true⟩) twoTokens, rfl⟩

end Store

end PropertyGraph
