import StabilizerPrep.Graph.Family

/-!
# Compressed graphs

A graph on at most eleven vertices is packed into one number below `2^64`:
bit `k` tells whether the `k`-th pair of vertices is joined. Such numbers
identify the graphs of the template tables.
-/

namespace StabilizerPrep.Graph

set_option autoImplicit false

/-- The largest number of vertices whose pairs fit into 64 bits. -/
def maxCompressed : Nat :=
  11

def checkCompressible (size : Nat) : Except Fault Unit :=
  if maxCompressed < size then .error (.graphTooLarge size maxCompressed) else .ok ()

/-- The number whose bits tell which pairs are joined. -/
def packed (graph : Graph) : Nat :=
  Mask.ofBits ((pairs graph.size).map fun (first, second) => graph.adjacent first second)

/-- The graph whose edges are the bits of a number. Bits beyond the last pair
do not matter. -/
def ofPacked (size number : Nat) : Graph :=
  ofEdges size (((pairs size).zipIdx.filter fun (_, k) => number.testBit k).map (·.1))

def compress (graph : Graph) : Except Fault Nat := do
  checkCompressible graph.size
  .ok graph.packed

def decompress (size number : Nat) : Except Fault Graph := do
  checkCompressible size
  .ok (ofPacked size number)

end StabilizerPrep.Graph
