import PropertyGraph.GraphError
import PropertyGraph.Text.Blank

/-!
# Ids

An id given by a caller is used as it is, but has to be a text that is not blank. Other ids are
drawn from a source of random tokens: an id is a word for the kind of element and a token, and it is
drawn again, a few times at most, while it is in use.
-/

namespace PropertyGraph

/-- The id that a caller gives. -/
def callerId (value : Document) : Except GraphError String :=
  match value with
  | .scalar (.text s) => if Text.isBlankText s then .error (.invalidId value.display) else .ok s
  | _ => .error (.invalidId value.display)

/--
A source of tokens: some that are handed out first, and an endless supply of which a number has been
drawn.
-/
structure TokenSource where
  queued : List String
  fresh : Nat → String
  drawn : Nat

namespace TokenSource

/-- The next token, and the source without it. -/
def next (t : TokenSource) : String × TokenSource :=
  match t.queued with
  | token :: rest => (token, { t with queued := rest })
  | [] => (t.fresh t.drawn, { t with drawn := t.drawn + 1 })

/-- Puts tokens at the end of those that are handed out first. -/
def queue (t : TokenSource) (tokens : List String) : TokenSource :=
  { t with queued := t.queued ++ tokens }

end TokenSource

/--
Draws candidates one after the other until one is not taken, at most the given number of times. The
result holds the state of the source after the draws that were made.
-/
def firstFree {σ : Type} (draw : σ → String × σ) (taken : String → Bool) :
    Nat → σ → Except GraphError String × σ
  | 0, s => (.error .noFreeId, s)
  | attempts + 1, s =>
    let (candidate, s) := draw s
    if taken candidate then firstFree draw taken attempts s else (.ok candidate, s)

/-- An id that is not taken: a word for the kind of element and a token. -/
def drawId (word : String) (taken : String → Bool) (t : TokenSource) :
    Except GraphError String × TokenSource :=
  firstFree (fun t => let (token, t) := t.next; (word ++ "_" ++ token, t)) taken idAttempts t

/-- A free id is one of those drawn, and it is not taken. -/
theorem not_taken_of_firstFree {σ : Type} {draw : σ → String × σ} {taken : String → Bool}
    {n : Nat} {s s' : σ} {id : String} (h : firstFree draw taken n s = (.ok id, s')) :
    taken id = false := by
  induction n generalizing s with
  | zero => simp [firstFree] at h
  | succ n ih =>
    simp only [firstFree] at h
    split at h
    · exact ih h
    · next ht =>
      simp only [Prod.mk.injEq, Except.ok.injEq] at h
      simpa [← h.1] using ht

end PropertyGraph
