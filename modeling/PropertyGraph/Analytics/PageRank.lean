import PropertyGraph.Analytics.Ranking

/-!
# PageRank

A node's rank is what a walker's time at it tends to, who follows relationships at random, in
proportion to their weights, and with some probability starts again anywhere. The walk is a matter
of arithmetic alone, so it is defined over any type of numbers: floats for answers, exact fractions
where its laws are stated. Every sum runs from the left and starts at zero.
-/

namespace PropertyGraph.Analytics

/-- The float of a natural number. -/
instance natCastFloat : NatCast Float := ⟨Float.ofNat⟩

section Walk

variable {α : Type} [Add α] [Sub α] [Mul α] [Div α] [Neg α] [NatCast α] [OfNat α 0] [OfNat α 1]

def sum (xs : List α) : α := xs.foldl (· + ·) 0

/-- A relationship between nodes that are known by their places. -/
structure Link (α : Type) (n : Nat) where
  source : Fin n
  target : Fin n
  weight : α

/-- A graph prepared for a walk: what leaves each place in all, and the links that reach it. -/
structure Walk (α : Type) (n : Nat) where
  outWeight : Vector α n
  incoming : Vector (List (Link α n)) n

namespace Walk

variable {n : Nat}

/-- The walk along a list of links. -/
def ofLinks (links : List (Link α n)) : Walk α n where
  outWeight := Vector.ofFn fun u => sum ((links.filter (·.source == u)).map Link.weight)
  incoming := Vector.ofFn fun v => links.filter (·.target == v)

/-- Equal ranks, which add up to one. -/
def start (n : Nat) : Vector α n := Vector.ofFn fun _ => 1 / (n : α)

/-- What a link carries of the rank of its source. -/
def share (w : Walk α n) (ranks : Vector α n) (link : Link α n) : α :=
  ranks[link.source] * link.weight / w.outWeight[link.source]

/-- The rank that lies where nothing leaves. -/
def dangling [BEq α] (w : Walk α n) (ranks : Vector α n) : α :=
  sum (((List.finRange n).filter fun u => w.outWeight[u] == 0).map fun u => ranks[u])

/-- The ranks after one more step of the walk. -/
def step [BEq α] (w : Walk α n) (damping : α) (ranks : Vector α n) : Vector α n :=
  let base := (1 - damping) / (n : α) + damping * w.dangling ranks / (n : α)
  Vector.ofFn fun v => base + damping * sum (w.incoming[v].map (w.share ranks))

variable [LT α] [DecidableLT α]

def size (x : α) : α := if x < 0 then -x else x

/-- How far apart two lists of ranks are. -/
def distance (new old : Vector α n) : α :=
  sum ((List.finRange n).map fun v => size (new[v] - old[v]))

/-- Steps until the ranks change by less than the tolerance, a number of times at most. -/
def iterate [BEq α] (w : Walk α n) (damping tolerance : α) : Nat → Vector α n → Vector α n
  | 0, ranks => ranks
  | steps + 1, ranks =>
    let new := w.step damping ranks
    if distance new ranks < tolerance then new else iterate w damping tolerance steps new

end Walk

/-- The place of an id in a list; of several the last. -/
def placeOf? (ids : List String) (id : String) : Option (Fin ids.length) :=
  (List.finRange ids.length).reverse.find? fun i => ids[i] == id

/-- The links between the nodes of a list; a relationship with an end elsewhere is left out. -/
def linksOf (weight : Relationship → α) (ids : List String) (relationships : List Relationship) :
    List (Link α ids.length) :=
  relationships.filterMap fun r => do
    return ⟨← placeOf? ids r.source, ← placeOf? ids r.target, weight r⟩

/-- How a walk goes on: the chance to follow a link, and when it stops. -/
structure WalkRules (α : Type) where
  damping : α
  steps : Nat
  tolerance : α

/-- A node and its score. -/
structure NodeScore (α : Type) where
  node : String
  score : α

/-- The scores of a list of nodes, in their order. -/
def scores [BEq α] [LT α] [DecidableLT α] (rules : WalkRules α) (weight : Relationship → α)
    (ids : List String) (relationships : List Relationship) : List (NodeScore α) :=
  let walk := Walk.ofLinks (linksOf weight ids relationships)
  let ranks := walk.iterate rules.damping rules.tolerance rules.steps (Walk.start ids.length)
  (List.finRange ids.length).map fun i => ⟨ids[i], ranks[i]⟩

/-- The nodes of a graph ranked by score. -/
def pageRank [BEq α] [LT α] [DecidableLT α] (rules : WalkRules α) (weight : Relationship → α)
    (g : Snapshot) (types : List String) (top : Option Int) : List (NodeScore α) :=
  takeTop top (rank NodeScore.score
    (scores rules weight g.nodeIds (ofTypes types g.relationships)))

end Walk

/-- The weight of a relationship in a walk: its own, or one for every relationship. -/
def weightIn (weighted : Bool) (r : Relationship) : Float :=
  if weighted then r.effectiveWeight else Relationship.defaultWeight

def NodeScore.toDocument (s : NodeScore Float) : Document :=
  .map [("nodeId", .text s.node), ("score", .float s.score)]

end PropertyGraph.Analytics
