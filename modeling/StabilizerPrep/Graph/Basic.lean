import StabilizerPrep.Fault
import StabilizerPrep.Mask
import StabilizerPrep.Pairs

/-!
# Graphs

An undirected graph on the vertices below its size is the list of its
neighbourhoods, one mask for each vertex. Edits are values of their own, so
that a history of edits can be spoken of; those that name a vertex outside
the graph are refused.
-/

namespace StabilizerPrep

set_option autoImplicit false

structure Graph where
  neighbourhoods : List Nat
  deriving DecidableEq, Repr

namespace Graph

def size (graph : Graph) : Nat :=
  graph.neighbourhoods.length

def neighbourhood (graph : Graph) (vertex : Nat) : Nat :=
  graph.neighbourhoods.getD vertex 0

def adjacent (graph : Graph) (first second : Nat) : Bool :=
  (graph.neighbourhood first).testBit second

/-- No edge leaves the graph, no vertex is joined to itself, and an edge may
be read from both of its ends. -/
def Simple (graph : Graph) : Prop :=
  (∀ vertex, graph.neighbourhood vertex < 2 ^ graph.size) ∧
    (∀ vertex, graph.adjacent vertex vertex = false) ∧
    ∀ first second, graph.adjacent first second = graph.adjacent second first

def empty (size : Nat) : Graph :=
  ⟨List.replicate size 0⟩

/-- Joins two vertices. Equal vertices, and vertices outside the graph, are
left alone. -/
def addEdge (graph : Graph) (first second : Nat) : Graph :=
  if first = second ∨ graph.size ≤ first ∨ graph.size ≤ second then graph
  else
    ⟨(graph.neighbourhoods.modify first (· ||| Mask.single second)).modify second
      (· ||| Mask.single first)⟩

def removeEdge (graph : Graph) (first second : Nat) : Graph :=
  ⟨(graph.neighbourhoods.modify first (Mask.erase second)).modify second (Mask.erase first)⟩

/-- Removes every edge at a vertex. -/
def isolate (graph : Graph) (vertex : Nat) : Graph :=
  ⟨(graph.neighbourhoods.map (Mask.erase vertex)).set vertex 0⟩

def clear (graph : Graph) : Graph :=
  empty graph.size

def addPath (graph : Graph) : List Nat → Graph
  | first :: second :: rest => addPath (graph.addEdge first second) (second :: rest)
  | _ => graph

def addStar (graph : Graph) : List Nat → Graph
  | [] => graph
  | centre :: leaves => leaves.foldl (fun graph leaf => graph.addEdge centre leaf) graph

/-- Toggles every edge between two distinct neighbours of a vertex. -/
def complementAt (graph : Graph) (vertex : Nat) : Graph :=
  let around := graph.neighbourhood vertex
  ⟨graph.neighbourhoods.mapIdx fun other mask =>
    if around.testBit other then mask ^^^ Mask.erase other around else mask⟩

def swapVertices (graph : Graph) (first second : Nat) : Graph :=
  if first = second then graph
  else
    let masks := graph.neighbourhoods.map (Mask.swap first second)
    ⟨(masks.set first (masks.getD second 0)).set second (masks.getD first 0)⟩

def neighbours (graph : Graph) (vertex : Nat) : List Nat :=
  Mask.positions graph.size (graph.neighbourhood vertex)

def degree (graph : Graph) (vertex : Nat) : Nat :=
  (graph.neighbours vertex).length

def edges (graph : Graph) : List (Nat × Nat) :=
  (pairs graph.size).filter fun (first, second) => graph.adjacent first second

def text (graph : Graph) : String :=
  let edgeText := fun (edge : Nat × Nat) => s!"{edge.1}-{edge.2}"
  "[" ++ ", ".intercalate (graph.edges.map edgeText) ++ "]"

inductive Edit where
  | addEdge (first second : Nat)
  | removeEdge (first second : Nat)
  | isolate (vertex : Nat)
  | clear
  | addPath (vertices : List Nat)
  | addStar (vertices : List Nat)
  | complementAt (vertex : Nat)
  | swapVertices (first second : Nat)
  deriving DecidableEq, Repr

/-- Whether an edge may be added between the two vertices: nothing happens at
equal vertices, wherever they are. -/
def admitsEdge (graph : Graph) (first second : Nat) : Bool :=
  first == second || (first < graph.size && second < graph.size)

/-- Whether a vertex may be looked up. A graph without vertices has nothing to
look through, so there any vertex may be named. -/
def admitsVertex (graph : Graph) (vertex : Nat) : Bool :=
  graph.size == 0 || vertex < graph.size

def admitsPath (graph : Graph) : List Nat → Bool
  | first :: second :: rest =>
      graph.admitsEdge first second && graph.admitsPath (second :: rest)
  | _ => true

def admits (graph : Graph) : Edit → Bool
  | .addEdge first second => graph.admitsEdge first second
  | .removeEdge first second => first < graph.size && second < graph.size
  | .isolate vertex => graph.admitsVertex vertex
  | .clear => true
  | .addPath vertices => graph.admitsPath vertices
  | .addStar [] => true
  | .addStar (centre :: leaves) => leaves.all (graph.admitsEdge centre)
  | .complementAt vertex => graph.admitsVertex vertex
  | .swapVertices first second =>
      first == second || (graph.admitsVertex first && graph.admitsVertex second)

def apply (graph : Graph) : Edit → Graph
  | .addEdge first second => graph.addEdge first second
  | .removeEdge first second => graph.removeEdge first second
  | .isolate vertex => graph.isolate vertex
  | .clear => graph.clear
  | .addPath vertices => graph.addPath vertices
  | .addStar vertices => graph.addStar vertices
  | .complementAt vertex => graph.complementAt vertex
  | .swapVertices first second => graph.swapVertices first second

def edit? (graph : Graph) (edit : Edit) : Option Graph :=
  if graph.admits edit then some (graph.apply edit) else none

def adjacent? (graph : Graph) (first second : Nat) : Option Bool :=
  if first < graph.size ∧ second < graph.size then some (graph.adjacent first second)
  else none

def neighbours? (graph : Graph) (vertex : Nat) : Option (List Nat) :=
  if graph.admitsVertex vertex then some (graph.neighbours vertex) else none

def degree? (graph : Graph) (vertex : Nat) : Option Nat :=
  if vertex < graph.size then some (graph.degree vertex) else none

end Graph

end StabilizerPrep
