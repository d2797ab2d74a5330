import PropertyGraph.Analytics.Ranking

/-!
# Degrees and density

The degree of a node counts the relationships that leave it and those that reach it, so a self-loop
counts twice. The density of a graph is the number of its relationships over the number of pairs of
its nodes, and never more than one.
-/

namespace PropertyGraph.Analytics

/-- A node and its degree. -/
structure NodeDegree where
  node : String
  degree : Nat
deriving DecidableEq

def NodeDegree.toDocument (d : NodeDegree) : Document :=
  .map [("nodeId", .text d.node), ("degree", .int d.degree)]

def degreeOf (relationships : List Relationship) (node : String) : Nat :=
  relationships.countP (·.source == node) + relationships.countP (·.target == node)

/-- The nodes of a graph ranked by degree. -/
def degrees (g : Snapshot) (types : List String) (top : Option Int) : List NodeDegree :=
  let relationships := ofTypes types g.relationships
  takeTop top (rank NodeDegree.degree
    (g.nodeIds.map fun id => ⟨id, degreeOf relationships id⟩))

/-- The density of a graph. -/
def density (g : Snapshot) (types : List String) : Float :=
  let n := g.nodes.length
  if n ≤ 1 then 0
  else
    let ratio := Float.ofNat (ofTypes types g.relationships).length
      / (Float.ofNat (n * (n - 1)) / 2)
    if 1 < ratio then 1 else ratio

end PropertyGraph.Analytics
