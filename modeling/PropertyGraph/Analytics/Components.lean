import PropertyGraph.Analytics.Ranking

/-!
# Connected components

Two nodes are connected if relationships, followed in either direction, lead from one to the other.
A search starts from each node that no earlier search has seen, and goes breadth first: it keeps the
ids it has not seen yet and a queue of those it has seen and not visited. Every step visits one id
of the queue and moves its unseen neighbours there, so the ids outside and inside the queue together
become fewer by one.
-/

namespace PropertyGraph.Analytics

/-- The ids next to a node, once for each end that a relationship has there. -/
def adjacent (relationships : List Relationship) (node : String) : List String :=
  relationships.flatMap fun r =>
    (if r.source = node then [r.target] else []) ++ (if r.target = node then [r.source] else [])

/-- Moves the given ids out of the unseen ones: those that were unseen, in order, and the rest. -/
def discover (ids unseen : List String) : List String × List String :=
  match ids with
  | [] => ([], unseen)
  | id :: ids =>
    if unseen.contains id then
      let (found, rest) := discover ids (unseen.erase id)
      (id :: found, rest)
    else discover ids unseen

/-- What is discovered is no longer unseen, and nothing else is lost. -/
theorem length_discover (ids unseen : List String) :
    (discover ids unseen).1.length + (discover ids unseen).2.length = unseen.length := by
  induction ids generalizing unseen with
  | nil => simp [discover]
  | cons id ids ih =>
    simp only [discover]
    split
    · next h =>
      have h : id ∈ unseen := by simpa using h
      have := ih (unseen.erase id)
      have := List.length_erase_of_mem h
      have := List.length_pos_of_mem h
      simp only [List.length_cons]
      omega
    · exact ih unseen

/-- The ids visited from a queue, in the order of the visits, and those still unseen. -/
def search (next : String → List String) (unseen queue : List String) :
    List String × List String :=
  match queue with
  | [] => ([], unseen)
  | id :: queue =>
    -- an id is no longer unseen when it enters the queue, so it never enters twice
    let found := (discover (next id) unseen).1
    let rest := (discover (next id) unseen).2
    let (visited, unseen) := search next rest (queue ++ found)
    (id :: visited, unseen)
termination_by unseen.length + queue.length
decreasing_by
  have := length_discover (next id) unseen
  simp only [List.length_append, List.length_cons]
  omega

/-- The components found by searches from the given starts in turn. -/
def searchAll (next : String → List String) (unseen : List String) :
    List String → List (List String)
  | [] => []
  | start :: starts =>
    if unseen.contains start then
      let (component, unseen) := search next (unseen.erase start) [start]
      component :: searchAll next unseen starts
    else searchAll next unseen starts

/-- All ids that nodes and ends of relationships go by, each once. -/
def idsOf (nodes : List String) (relationships : List Relationship) : List String :=
  (nodes ++ relationships.flatMap fun r => [r.source, r.target]).eraseDups

/-- The connected components of a graph, each in the order of its search. -/
def components (g : Snapshot) (types : List String) : List (List String) :=
  let relationships := ofTypes types g.relationships
  searchAll (adjacent relationships) (idsOf g.nodeIds relationships) g.nodeIds

end PropertyGraph.Analytics
