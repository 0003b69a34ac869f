import StabilizerPrep.Graph.Basic

/-!
# Named families of graphs

Complete graphs, paths, cycles and stars of any size, and the dandelion: a
star with three leaves, one of which fans out to all remaining vertices.
-/

namespace StabilizerPrep.Graph

set_option autoImplicit false

def ofEdges (size : Nat) (edges : List (Nat × Nat)) : Graph :=
  edges.foldl (fun graph (first, second) => graph.addEdge first second) (empty size)

def ofEdges? (size : Nat) (edges : List (Nat × Nat)) : Option Graph :=
  edges.foldlM (fun graph (first, second) => graph.edit? (.addEdge first second))
    (empty size)

def complete (size : Nat) : Graph :=
  ofEdges size (pairs size)

def path (size : Nat) : Graph :=
  (empty size).addPath (List.range size)

/-- The path whose ends are joined. Two vertices are not joined twice. -/
def cycle (size : Nat) : Graph :=
  if 2 < size then (path size).addEdge (size - 1) 0 else path size

def star (size centre : Nat) : Graph :=
  (empty size).addStar (centre :: List.range size)

/-- The star, unless its centre lies outside a graph that has vertices. -/
def star? (size centre : Nat) : Option Graph :=
  (empty size).edit? (.addStar (centre :: List.range size))

def dandelion (size : Nat) : Except Fault Graph :=
  if size < 5 then .error (.tooFewVertices "pusteblume" size 5)
  else
    .ok (((empty size).addStar [0, 1, 2, 3]).addStar
      (3 :: (List.range size).filter (4 ≤ ·)))

end StabilizerPrep.Graph
