import StabilizerPrep.Entanglement.Structure
import StabilizerPrep.Graph.Family

/-!
# Representative graphs

The graph of a structure with given vertex roles. Its graph state represents
the class. Groups are addressed by size and place, so groups of different
sizes may come in any order.
-/

namespace StabilizerPrep

set_option autoImplicit false

namespace Graph

def addPair (graph : Graph) (roles : Roles) (ordinal : Nat) : Graph :=
  graph.addEdge (roles.vertex 2 ordinal 0) (roles.vertex 2 ordinal 1)

/-- The path of four through two pairs that are joined at their first
vertices. -/
def addLineOfPairs (graph : Graph) (roles : Roles) : Graph :=
  ((graph.addPair roles 0).addPair roles 1).addEdge (roles.vertex 2 0 0) (roles.vertex 2 1 0)

end Graph

def TwoQubits.graph : TwoQubits → Graph
  | .separable => .empty 2
  | .entangled => (Graph.empty 2).addEdge 0 1

def ThreeQubits.graph (roles : Roles) : ThreeQubits → Graph
  | .separable => .empty 3
  | .pair => (Graph.empty 3).addPair roles 0
  | .triple => (Graph.empty 3).addPath [0, 1, 2]

def FourQubits.graph (roles : Roles) : FourQubits → Graph
  | .separable => .empty 4
  | .pair => (Graph.empty 4).addPair roles 0
  | .triple => (Graph.empty 4).addPath (roles.group 3 0)
  | .twoPairs => ((Graph.empty 4).addPair roles 0).addPair roles 1
  | .star => .star 4 0
  | .line =>
      (((Graph.empty 4).addPair roles 0).addPair roles 1).addEdge (roles.vertex 2 0 0)
        (roles.vertex 2 1 1)

def FiveQubits.graph (roles : Roles) : FiveQubits → Graph
  | .separable => .empty 5
  | .pair => (Graph.empty 5).addPair roles 0
  | .triple => (Graph.empty 5).addPath (roles.group 3 0)
  | .twoPairs => ((Graph.empty 5).addPair roles 0).addPair roles 1
  | .star4 => (Graph.star 5 (roles.vertex 4 0 0)).isolate (roles.vertex 1 0 0)
  | .line4 => (Graph.empty 5).addLineOfPairs roles
  | .star => .star 5 0
  | .pairAndTriple =>
      ((Graph.empty 5).addPath (roles.group 2 0)).addPath (roles.group 3 0)
  | .t =>
      let centre := roles.vertex 3 0 0
      ((Graph.star 5 centre).removeEdge (roles.vertex 2 0 0) centre).addPair roles 0
  | .line =>
      (Graph.empty 5).addPath
        [roles.vertex 2 0 0, roles.vertex 2 0 1, roles.vertex 1 0 0, roles.vertex 2 1 0,
          roles.vertex 2 1 1]
  | .cycle => .cycle 5

def SixQubits.graph (roles : Roles) (kind : SixQubits) : Graph :=
  let graph := Graph.empty 6
  let vertex := roles.vertex
  match kind with
  | .separable => graph
  | .pair => graph.addPair roles 0
  | .twoPairs => (graph.addPair roles 0).addPair roles 1
  | .threePairs => ((graph.addPair roles 0).addPair roles 1).addPair roles 2
  | .triple => graph.addPath (roles.group 3 0)
  | .pairAndTriple => (graph.addPath (roles.group 2 0)).addPath (roles.group 3 0)
  | .twoTriples => (graph.addPath (roles.group 3 0)).addPath (roles.group 3 1)
  | .line4 => graph.addLineOfPairs roles
  | .line4AndPair =>
      (graph.addLineOfPairs roles).addEdge (vertex 1 0 0) (vertex 1 1 0)
  | .star4 => graph.addStar (roles.group 4 0)
  | .star4AndPair => (graph.addStar (roles.group 4 0)).addPair roles 0
  | .line5 =>
      ((graph.addPair roles 0).addPair roles 1).addPath
        [vertex 2 0 1, vertex 1 1 0, vertex 2 1 0]
  | .cycle5 =>
      (graph.addPath (roles.group 5 0)).addEdge (vertex 5 0 0) (vertex 5 0 4)
  | .t =>
      ((graph.addPath (roles.group 2 0)).addStar (roles.group 3 0)).addEdge
        (vertex 3 0 0) (vertex 2 0 1)
  | .star5 => graph.addStar (roles.group 5 0)
  | .cycle6 =>
      graph.addPath
        [vertex 2 0 0, vertex 2 1 0, vertex 2 2 0, vertex 2 0 1, vertex 2 1 1, vertex 2 2 1,
          vertex 2 0 0]
  | .line6 =>
      ((graph.addPair roles 0).addPair roles 1).addPath
        [vertex 2 0 0, vertex 1 0 0, vertex 1 1 0, vertex 2 1 1]
  | .t6 =>
      ((graph.addPath (roles.group 2 0)).addStar (roles.group 3 0)).addPath
        [vertex 3 0 0, vertex 1 0 0, vertex 2 0 1]
  | .cross =>
      (graph.addStar (roles.group 4 0)).addPath [vertex 2 0 0, vertex 2 0 1, vertex 4 0 0]
  | .star6 => .star 6 0
  | .h =>
      ((graph.addPath (roles.group 3 0)).addPath (roles.group 3 1)).addEdge
        (vertex 3 0 1) (vertex 3 1 1)
  | .e =>
      ((graph.addPath (roles.group 2 0)).addPath (roles.group 2 1)).addStar
        [vertex 1 0 0, vertex 1 1 0, vertex 2 0 0, vertex 2 1 0]
  | .eBar =>
      (((graph.addPair roles 0).addPair roles 1).addPair roles 2).addPath
        [vertex 2 0 0, vertex 2 1 0, vertex 2 2 0, vertex 2 0 0]
  | .box5 =>
      (((graph.addPath (roles.group 2 0)).addPath (roles.group 2 1)).addStar
        [vertex 1 0 0, vertex 1 1 0, vertex 2 0 0, vertex 2 1 0]).addEdge
          (vertex 2 0 1) (vertex 2 1 1)
  | .box4 =>
      ((graph.addPair roles 0).addPair roles 1).addPath
        [vertex 2 0 0, vertex 2 2 0, vertex 2 1 0, vertex 2 2 1, vertex 2 0 0]
  | .ame => graph.addPath [0, 1, 2, 3, 4, 5, 0, 4, 5, 2, 1, 3]

def Structure.graph (roles : Roles) : Structure → Graph
  | .two kind => kind.graph
  | .three kind => kind.graph roles
  | .four kind => kind.graph roles
  | .five kind => kind.graph roles
  | .six kind => kind.graph roles

end StabilizerPrep
