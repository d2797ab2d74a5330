import Mathlib.Data.List.Forall2
import PropertyGraph.Batch.Run

/-!
# Batches as sequences of lines

A batch is cut into lines, and the lines of two texts with a line break between them are the lines
of the one followed by those of the other. Running lines is a fold that stops at the first line that
is not understood or is refused, whether or not that is reported, so the run of `ls ++ ms` is the
run of `ls`, continued by that of `ms` unless it has stopped. All of this holds for any state and
any step, so it says the same of a batch on a store and of one on a graph that cannot change.
-/

namespace PropertyGraph

namespace Batch

open Text

variable {σ τ : Type} {shapes : List Shape}
  {step : σ → Command → Except GraphError Outcome × σ}

/-! ## Cutting -/

theorem cutLines_ne_nil (s : List Char) : cutLines s ≠ [] := by
  cases s with
  | nil => simp [cutLines]
  | cons c s =>
    unfold cutLines
    split
    · simp
    · split <;> simp

theorem cutLines_append (s t : List Char) :
    cutLines (s ++ '\n' :: t) = cutLines s ++ cutLines t := by
  induction s with
  | nil =>
    show cutLines ('\n' :: t) = [] :: cutLines t
    rw [cutLines, if_pos rfl]
  | cons c s ih =>
    rw [List.cons_append, cutLines, cutLines, ih]
    by_cases hc : c = '\n'
    · rw [if_pos hc, if_pos hc, List.cons_append]
    · rw [if_neg hc, if_neg hc]
      cases hq : cutLines s with
      -- there is always a line for the character to go on
      | nil => exact absurd hq (cutLines_ne_nil s)
      | cons line lines => rfl

theorem lines_append (t u : String) : lines (t ++ "\n" ++ u) = lines t ++ lines u := by
  have hnl : ("\n" : String).toList = ['\n'] := rfl
  unfold lines
  rw [String.toList_append, String.toList_append, hnl, List.append_assoc, List.singleton_append,
    cutLines_append, List.map_append, List.filter_append, List.map_append]

theorem cutLines_of_not_mem {s : List Char} (h : '\n' ∉ s) : cutLines s = [s] := by
  induction s with
  | nil => rfl
  | cons c s ih =>
    rw [List.mem_cons, not_or] at h
    rw [cutLines, if_neg (Ne.symm h.1), ih h.2]

/-- A text that is one line. -/
theorem lines_of_line {line : String} (hbreak : '\n' ∉ line.toList)
    (htrim : strip line.toList = line.toList) (hne : line ≠ "") : lines line = [line] := by
  have hkeep : [line.toList].filter (· ≠ []) = [line.toList] :=
    List.filter_eq_self.mpr (List.forall_mem_singleton.mpr
      (decide_eq_true (mt String.toList_eq_nil_iff.mp hne)))
  unfold lines
  rw [cutLines_of_not_mem hbreak, List.map_singleton, htrim, hkeep, List.map_singleton,
    String.ofList_toList]

/-! ## Runs of lines -/

/-- Whether a line is a command that is understood. -/
def understood (shapes : List Shape) (line : String) : Bool :=
  match Command.parse shapes line with
  | .ok c => decide (c.action ≠ .unknown)
  | .error _ => false

theorem runLines_cons {s s' : σ} {line : String} {c : Command} {o : Outcome}
    (hp : Command.parse shapes line = .ok c) (hc : step s c = (.ok o, s')) (rest : List String) :
    runLines shapes step s (line :: rest)
      = ((runLines shapes step s' rest).1.map (o :: ·), (runLines shapes step s' rest).2) := by
  rw [runLines, hp]
  dsimp only
  rw [hc]

/--
The first line stops the run, as it is no command or its command is refused, whatever follows, or it
is a command that is done.
-/
theorem runLines_cons_cases (shapes : List Shape)
    (step : σ → Command → Except GraphError Outcome × σ) (s : σ) (line : String) :
    (∃ halt s', (s' = s ∨ ∃ c e, step s c = (.error e, s'))
      ∧ ∀ rest, runLines shapes step s (line :: rest) = (.error halt, s'))
    ∨ ∃ c o s', Command.parse shapes line = .ok c ∧ step s c = (.ok o, s') := by
  cases hp : Command.parse shapes line with
  | error halt =>
    refine Or.inl ⟨halt.map .command, s, Or.inl rfl, fun rest => ?_⟩
    rw [runLines, hp]
  | ok c =>
    cases hc : step s c with
    | mk r s' =>
      cases r with
      | error e =>
        refine Or.inl ⟨.reported e, s', Or.inr ⟨c, e, hc⟩, fun rest => ?_⟩
        rw [runLines, hp]
        dsimp only
        rw [hc]
      | ok o => exact Or.inr ⟨c, o, s', rfl, hc⟩

theorem runLines_cons_ok {s s' : σ} {line : String} {rest : List String} {os : List Outcome}
    (h : runLines shapes step s (line :: rest) = (.ok os, s')) :
    ∃ c o t ps, Command.parse shapes line = .ok c ∧ step s c = (.ok o, t)
      ∧ runLines shapes step t rest = (.ok ps, s') ∧ os = o :: ps := by
  rcases runLines_cons_cases shapes step s line with ⟨halt, t, _, hrun⟩ | ⟨c, o, t, hp, hc⟩
  · rw [hrun] at h
    exact absurd (congrArg Prod.fst h) (by simp)
  · rw [runLines_cons hp hc] at h
    cases hrest : runLines shapes step t rest with
    | mk q t' =>
      rw [hrest] at h
      cases q with
      | error e => exact absurd (congrArg Prod.fst h) (by simp [Except.map])
      | ok ps =>
        obtain ⟨hos, rfl⟩ := Prod.mk.inj h
        exact ⟨c, o, t, ps, hp, hc, hrest, (Except.ok.inj hos).symm⟩

/-- What every command preserves, a run of lines preserves. -/
theorem runLines_preserves {P : σ → Prop} (hstep : ∀ s c, P s → P (step s c).2)
    (ls : List String) (s : σ) (hs : P s) : P (runLines shapes step s ls).2 := by
  induction ls generalizing s with
  | nil => exact hs
  | cons line rest ih =>
    rcases runLines_cons_cases shapes step s line with
      ⟨halt, s', hs', hrun⟩ | ⟨c, o, s', hp, hc⟩
    · rw [hrun]
      rcases hs' with rfl | ⟨c, e, hc⟩
      · exact hs
      · have hnext := hstep s c hs
        rw [hc] at hnext
        exact hnext
    · rw [runLines_cons hp hc]
      have hnext := hstep s c hs
      rw [hc] at hnext
      exact ih s' hnext

/-- Runs from related states give the same answer, and states that are related again. -/
theorem runLines_related {step' : τ → Command → Except GraphError Outcome × τ}
    {R : σ → τ → Prop}
    (hstep : ∀ s t c, R s t → (step s c).1 = (step' t c).1 ∧ R (step s c).2 (step' t c).2)
    (ls : List String) (s : σ) (t : τ) (h : R s t) :
    (runLines shapes step s ls).1 = (runLines shapes step' t ls).1
      ∧ R (runLines shapes step s ls).2 (runLines shapes step' t ls).2 := by
  induction ls generalizing s t with
  | nil => exact ⟨rfl, h⟩
  | cons line rest ih =>
    rw [runLines, runLines]
    cases Command.parse shapes line with
    | error halt => exact ⟨rfl, h⟩
    | ok c =>
      obtain ⟨hr, hR⟩ := hstep s t c h
      dsimp only
      cases hc : step s c with
      | mk r s' =>
        cases hc' : step' t c with
        | mk r' t' =>
          rw [hc, hc'] at hr hR
          dsimp only at hr hR
          subst hr
          cases r with
          | error e => exact ⟨rfl, hR⟩
          | ok o =>
            obtain ⟨h1, h2⟩ := ih s' t' hR
            exact ⟨congrArg (Except.map (o :: ·)) h1, h2⟩

/-- What every command preserves, a batch preserves. -/
theorem run_preserves {P : σ → Prop} (hstep : ∀ s c, P s → P (step s c).2) (rules : BatchRules)
    (text : String) (s : σ) (hs : P s) : P (run rules step s text).2 := by
  unfold run
  dsimp only
  split
  · exact hs
  · exact runLines_preserves hstep _ s hs

/-- A step that keeps a record besides the state answers and leaves what it does without. -/
theorem run_recorded {record : σ × τ → Command → Except GraphError Outcome × σ × τ}
    (hrecord : ∀ x c, (record x c).1 = (step x.1 c).1 ∧ (record x c).2.1 = (step x.1 c).2)
    (rules : BatchRules) (text : String) (x : σ × τ) :
    (run rules record x text).1 = (run rules step x.1 text).1
      ∧ (run rules record x text).2.1 = (run rules step x.1 text).2 := by
  unfold run
  dsimp only
  split
  · exact ⟨rfl, rfl⟩
  · refine runLines_related (R := fun x s => x.1 = s) ?_ _ x x.1 rfl
    rintro x s c rfl
    exact hrecord x c

/-- A run that does not stop has one outcome for each line, which is an outcome of its command. -/
theorem runLines_outcomes {Q : Command → Outcome → Prop}
    (hstep : ∀ s c o s', step s c = (.ok o, s') → Q c o) {s s' : σ} {os : List Outcome}
    {ls : List String} (h : runLines shapes step s ls = (.ok os, s')) :
    List.Forall₂ (fun line o => ∃ c, Command.parse shapes line = .ok c ∧ Q c o) ls os := by
  induction ls generalizing s os with
  | nil =>
    rw [← Except.ok.inj (congrArg Prod.fst h)]
    exact List.Forall₂.nil
  | cons line rest ih =>
    obtain ⟨c, o, t, ps, hp, hc, hrest, rfl⟩ := runLines_cons_ok h
    exact List.Forall₂.cons ⟨c, hp, hstep s c o t hc⟩ (ih hrest)

theorem length_outcomes {s s' : σ} {os : List Outcome} {ls : List String}
    (h : runLines shapes step s ls = (.ok os, s')) : os.length = ls.length :=
  (runLines_outcomes (Q := fun _ _ => True) (fun _ _ _ _ _ => trivial) h).length_eq.symm

/-- Lines that follow a run that has stopped are not looked at. -/
theorem runLines_append_of_error {s s' : σ} {halt : Halt GraphError} {ls : List String}
    (h : runLines shapes step s ls = (.error halt, s')) (ms : List String) :
    runLines shapes step s (ls ++ ms) = (.error halt, s') := by
  induction ls generalizing s with
  | nil => exact absurd (congrArg Prod.fst h) (by simp [runLines])
  | cons line rest ih =>
    -- the first line is refused whatever follows, or the rest is where the run stops
    rw [List.cons_append]
    rcases runLines_cons_cases shapes step s line with ⟨_, t, _, hrun⟩ | ⟨c, o, t, hp, hc⟩
    · rw [hrun] at h ⊢
      exact h
    · rw [runLines_cons hp hc] at h ⊢
      cases hrest : runLines shapes step t rest with
      | mk q t' =>
        rw [hrest] at h
        cases q with
        | ok os => exact absurd (congrArg Prod.fst h) (by simp [Except.map])
        | error halt' =>
          rw [ih (hrest.trans h)]
          rfl

/-- Lines that follow a run that has not stopped are run in the state it leaves. -/
theorem runLines_append_of_ok {s s' : σ} {os : List Outcome} {ls : List String}
    (h : runLines shapes step s ls = (.ok os, s')) (ms : List String) :
    runLines shapes step s (ls ++ ms)
      = ((runLines shapes step s' ms).1.map (os ++ ·), (runLines shapes step s' ms).2) := by
  induction ls generalizing s os with
  | nil =>
    obtain ⟨hos, hs⟩ := Prod.mk.inj h
    rw [← hs, ← Except.ok.inj hos, List.nil_append]
    cases runLines shapes step s ms with
    | mk q t => cases q <;> rfl
  | cons line rest ih =>
    obtain ⟨c, o, t, ps, hp, hc, hrest, rfl⟩ := runLines_cons_ok h
    rw [List.cons_append, runLines_cons hp hc, ih hrest]
    cases runLines shapes step s' ms with
    | mk q t => cases q <;> rfl

/--
A run that stops does so at a line: the lines before it are done, and it is refused in the state
they leave.
-/
theorem exists_stop_of_error {s s' : σ} {halt : Halt GraphError} {ls : List String}
    (h : runLines shapes step s ls = (.error halt, s')) :
    ∃ k os t, ∃ hk : k < ls.length, runLines shapes step s (ls.take k) = (.ok os, t)
      ∧ runLines shapes step t [ls[k]] = (.error halt, s') := by
  induction ls generalizing s with
  | nil => exact absurd (congrArg Prod.fst h) (by simp [runLines])
  | cons line rest ih =>
    -- either the first line is refused, or a later one is
    cases hl : runLines shapes step s [line] with
    | mk q t =>
      cases q with
      | error halt' =>
        have hall := runLines_append_of_error hl rest
        rw [List.singleton_append, h] at hall
        exact ⟨0, [], s, by simp, rfl, hl.trans hall.symm⟩
      | ok os =>
        have hall := runLines_append_of_ok hl rest
        rw [List.singleton_append, h] at hall
        cases hrest : runLines shapes step t rest with
        | mk p t' =>
          rw [hrest] at hall
          cases p with
          | ok ps => exact absurd (congrArg Prod.fst hall) (by simp [Except.map])
          | error halt' =>
            have heq : runLines shapes step t rest = (.error halt, s') := hrest.trans hall.symm
            obtain ⟨k, ps, u, hk, h1, h2⟩ := ih heq
            refine ⟨k + 1, os ++ ps, u, Nat.succ_lt_succ hk, ?_, h2⟩
            have hprefix := runLines_append_of_ok hl (rest.take k)
            rw [h1] at hprefix
            exact hprefix

end Batch

end PropertyGraph
