import StabilizerPrep.Fault
import StabilizerPrep.Partition.Shape
import StabilizerPrep.Arithmetic

/-!
# Entanglement structures

Up to single-qubit Cliffords and the names of the qubits, the stabilizer
states on two to six qubits fall into finitely many structures. Each of them
is the topology of a graph, and a shape tells which vertices of the graph play
different roles. Structures are listed in the order of the class numbers.
-/

namespace StabilizerPrep

set_option autoImplicit false

inductive TwoQubits where
  /-- Product state. -/
  | separable
  /-- Bell pair. -/
  | entangled
  deriving DecidableEq, Repr

namespace TwoQubits

def every : List TwoQubits :=
  [.separable, .entangled]

def name : TwoQubits → String
  | .separable => "Separable"
  | .entangled => "Entangled"

def shape : TwoQubits → Shape
  | .separable => .whole 2
  | .entangled => .whole 2

end TwoQubits

inductive ThreeQubits where
  /-- Product state. -/
  | separable
  /-- One entangled pair; the single vertex is free. -/
  | pair
  /-- Path on all three qubits. -/
  | triple
  deriving DecidableEq, Repr

namespace ThreeQubits

def every : List ThreeQubits :=
  [.separable, .pair, .triple]

def name : ThreeQubits → String
  | .separable => "Separable"
  | .pair => "Pair"
  | .triple => "Triple"

def shape : ThreeQubits → Shape
  | .separable => .whole 3
  | .pair => .singleRest 3
  | .triple => .whole 3

end ThreeQubits

inductive FourQubits where
  /-- Product state. -/
  | separable
  /-- One entangled pair. -/
  | pair
  /-- Three entangled qubits; the single vertex is free. -/
  | triple
  /-- Two disjoint pairs. -/
  | twoPairs
  /-- Star on all four qubits. -/
  | star
  /-- Path on four qubits; the pairs are its end edges. -/
  | line
  deriving DecidableEq, Repr

namespace FourQubits

def every : List FourQubits :=
  [.separable, .pair, .triple, .twoPairs, .star, .line]

def name : FourQubits → String
  | .separable => "Separable"
  | .pair => "Pair"
  | .triple => "Triple"
  | .twoPairs => "TwoPairs"
  | .star => "Star"
  | .line => "Line"

def shape : FourQubits → Shape
  | .separable => .whole 4
  | .pair => .pairSingles
  | .triple => .singleRest 4
  | .twoPairs => .twoPairs
  | .star => .whole 4
  | .line => .twoPairs

end FourQubits

inductive FiveQubits where
  /-- Product state. -/
  | separable
  /-- One entangled pair. -/
  | pair
  /-- Three entangled qubits; the pair is free. -/
  | triple
  /-- Two disjoint pairs and a free qubit. -/
  | twoPairs
  /-- Star on four qubits and a free qubit. -/
  | star4
  /-- Path on four qubits and a free qubit. -/
  | line4
  /-- Star on all five qubits. -/
  | star
  /-- A pair and a disjoint triple. -/
  | pairAndTriple
  /-- Star with one longer arm; the pair is the arm. -/
  | t
  /-- Path on five qubits; the single vertex is its middle. -/
  | line
  /-- Cycle of five. -/
  | cycle
  deriving DecidableEq, Repr

namespace FiveQubits

def every : List FiveQubits :=
  [.separable, .pair, .triple, .twoPairs, .star4, .line4, .star, .pairAndTriple, .t, .line,
    .cycle]

def name : FiveQubits → String
  | .separable => "Separable"
  | .pair => "Pair"
  | .triple => "Triple"
  | .twoPairs => "TwoPairs"
  | .star4 => "Star4"
  | .line4 => "Line4"
  | .star => "Star"
  | .pairAndTriple => "PairAndTriple"
  | .t => "T"
  | .line => "Line"
  | .cycle => "Cycle"

def shape : FiveQubits → Shape
  | .separable => .whole 5
  | .pair => .pairRest 5
  | .triple => .pairRest 5
  | .twoPairs => .singlePairPair
  | .star4 => .singleRest 5
  | .line4 => .singlePairPair
  | .star => .whole 5
  | .pairAndTriple => .pairRest 5
  | .t => .pairRest 5
  | .line => .singlePairPair
  | .cycle => .whole 5

end FiveQubits

inductive SixQubits where
  /-- Product state. -/
  | separable
  /-- One entangled pair. -/
  | pair
  /-- Two disjoint pairs and two free qubits. -/
  | twoPairs
  /-- Three disjoint pairs. -/
  | threePairs
  /-- One entangled triple and three free qubits. -/
  | triple
  /-- A pair and a triple with one free qubit. -/
  | pairAndTriple
  /-- Two disjoint triples. -/
  | twoTriples
  /-- Path on four qubits and two free qubits. -/
  | line4
  /-- Path on four qubits and a disjoint pair. -/
  | line4AndPair
  /-- Star on four qubits and two free qubits. -/
  | star4
  /-- Star on four qubits and a disjoint pair. -/
  | star4AndPair
  /-- Path on five qubits and a free qubit. -/
  | line5
  /-- Cycle of five and a free qubit. -/
  | cycle5
  /-- Star of four with one longer arm, and a free qubit. -/
  | t
  /-- Star on five qubits and a free qubit. -/
  | star5
  /-- Cycle of six. -/
  | cycle6
  /-- Path on six qubits. -/
  | line6
  /-- Star with one arm of length three. -/
  | t6
  /-- Star on five qubits with one arm longer by an edge. -/
  | cross
  /-- Star on all six qubits. -/
  | star6
  /-- Two paths of three joined at their middles. -/
  | h
  /-- A vertex with one pendant edge and two longer arms. -/
  | e
  /-- Triangle with a pendant edge at every corner. -/
  | eBar
  /-- Cycle of five with a pendant edge. -/
  | box5
  /-- Cycle of four with two pendant edges at opposite corners. -/
  | box4
  /-- The absolutely maximally entangled state of six qubits. -/
  | ame
  deriving DecidableEq, Repr

namespace SixQubits

def every : List SixQubits :=
  [.separable, .pair, .twoPairs, .threePairs, .triple, .pairAndTriple, .twoTriples, .line4,
    .line4AndPair, .star4, .star4AndPair, .line5, .cycle5, .t, .star5, .cycle6, .line6, .t6,
    .cross, .star6, .h, .e, .eBar, .box5, .box4, .ame]

def name : SixQubits → String
  | .separable => "Separable"
  | .pair => "Pair"
  | .twoPairs => "TwoPairs"
  | .threePairs => "ThreePairs"
  | .triple => "Triple"
  | .pairAndTriple => "PairAndTriple"
  | .twoTriples => "TwoTriples"
  | .line4 => "Line4"
  | .line4AndPair => "Line4AndPair"
  | .star4 => "Star4"
  | .star4AndPair => "Star4AndPair"
  | .line5 => "Line5"
  | .cycle5 => "Cycle5"
  | .t => "T"
  | .star5 => "Star5"
  | .cycle6 => "Cycle6"
  | .line6 => "Line6"
  | .t6 => "T6"
  | .cross => "Cross"
  | .star6 => "Star6"
  | .h => "H"
  | .e => "E"
  | .eBar => "EBar"
  | .box5 => "Box5"
  | .box4 => "Box4"
  | .ame => "AME"

def shape : SixQubits → Shape
  | .separable => .whole 6
  | .pair => .pairRest 6
  | .twoPairs => .singlesPairs
  | .threePairs => .threePairs
  | .triple => .tripleSingles
  | .pairAndTriple => .singlePairTriple
  | .twoTriples => .tripleTriple
  | .line4 => .singlesPairs
  | .line4AndPair => .singlesPairs
  | .star4 => .pairRest 6
  | .star4AndPair => .pairRest 6
  | .line5 => .orderedSinglesPairs
  | .cycle5 => .singleRest 6
  | .t => .singlePairTriple
  | .star5 => .singleRest 6
  | .cycle6 => .threePairs
  | .line6 => .orderedSinglesPairs
  | .t6 => .singlePairTriple
  | .cross => .pairRest 6
  | .star6 => .whole 6
  | .h => .tripleTriple
  | .e => .singlesPairs
  | .eBar => .threePairs
  | .box5 => .singlesPairs
  | .box4 => .threePairs
  | .ame => .whole 6

end SixQubits

inductive Structure where
  | two (kind : TwoQubits)
  | three (kind : ThreeQubits)
  | four (kind : FourQubits)
  | five (kind : FiveQubits)
  | six (kind : SixQubits)
  deriving DecidableEq, Repr

namespace Structure

/-- The structures for a number of qubits; there are none below two and above
six. -/
def every : Nat → List Structure
  | 2 => TwoQubits.every.map .two
  | 3 => ThreeQubits.every.map .three
  | 4 => FourQubits.every.map .four
  | 5 => FiveQubits.every.map .five
  | 6 => SixQubits.every.map .six
  | _ => []

def qubits : Structure → Nat
  | .two _ => 2
  | .three _ => 3
  | .four _ => 4
  | .five _ => 5
  | .six _ => 6

def name : Structure → String
  | .two kind => kind.name
  | .three kind => kind.name
  | .four kind => kind.name
  | .five kind => kind.name
  | .six kind => kind.name

/-- The shape that numbers the roles of the vertices. -/
def shape : Structure → Shape
  | .two kind => kind.shape
  | .three kind => kind.shape
  | .four kind => kind.shape
  | .five kind => kind.shape
  | .six kind => kind.shape

def classCount (kind : Structure) : Nat :=
  kind.shape.count

/-- The first class number of this structure: the classes of all earlier ones
come before it. -/
def firstId (kind : Structure) : Nat :=
  (((every kind.qubits).takeWhile (· ≠ kind)).map classCount).sum

end Structure

end StabilizerPrep
