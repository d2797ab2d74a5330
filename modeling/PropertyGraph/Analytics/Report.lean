import PropertyGraph.Analytics.Components
import PropertyGraph.Analytics.Degree
import PropertyGraph.Analytics.PageRank

/-!
# The report on a graph

The report gathers the counts of a graph, the spread of its degrees and how it hangs together. The
analysis of a graph is its report with the rankings and the components themselves.
-/

namespace PropertyGraph.Analytics

/-- The counts, degrees and components of a graph in figures. -/
structure Report where
  stats : Stats
  density : Float
  averageDegree : Float
  maxDegree : Nat
  minDegree : Nat
  degreeCounts : OrderedMap Nat Nat
  componentCount : Nat
  largestComponent : Nat

namespace Report

/-- The report on a graph. -/
def ofSnapshot (g : Snapshot) : Report :=
  let ds := (degrees g [] none).map NodeDegree.degree
  let sizes := (components g []).map List.length
  { stats := g.stats
    density := Analytics.density g []
    averageDegree := if ds.isEmpty then 0 else Float.ofNat (sum ds) / Float.ofNat ds.length
    maxDegree := ds.max?.getD 0
    minDegree := ds.min?.getD 0
    degreeCounts := tally ds
    componentCount := sizes.length
    largestComponent := sizes.max?.getD 0 }

/-- Whether no two nodes are apart. -/
def isConnected (r : Report) : Bool := r.componentCount ≤ 1

/-- The report as a document. -/
def toDocument (r : Report) : Document :=
  .map [
    ("basic_metrics", .map [("num_nodes", .int r.stats.nodeCount),
      ("num_relationships", .int r.stats.relationshipCount), ("density", .float r.density)]),
    ("degree_statistics", .map [("average_degree", .float r.averageDegree),
      ("max_degree", .int r.maxDegree), ("min_degree", .int r.minDegree),
      ("degree_distribution",
        .map (r.degreeCounts.entries.map fun e => (toString e.1, .int e.2)))]),
    ("connectivity", .map [("num_components", .int r.componentCount),
      ("largest_component_size", .int r.largestComponent),
      ("is_connected", .bool r.isConnected)]),
    ("node_types", Stats.countsDocument r.stats.nodeTypes),
    ("relationship_types", Stats.countsDocument r.stats.relationshipTypes)]

end Report

def componentsDocument (cs : List (List String)) : Document :=
  .list (cs.map fun c => .list (c.map .text))

/-- All analyses of a graph as a document. -/
def analysis (rules : WalkRules Float) (g : Snapshot) (top : Option Int) : Document :=
  let cs := components g []
  .map [("centrality", .list ((degrees g [] top).map NodeDegree.toDocument)),
    ("components", componentsDocument cs), ("componentCount", .int cs.length),
    ("pagerank", .list ((pageRank rules (weightIn false) g [] top).map NodeScore.toDocument)),
    ("statistics", (Report.ofSnapshot g).toDocument)]

end PropertyGraph.Analytics
