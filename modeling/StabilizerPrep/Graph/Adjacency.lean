import StabilizerPrep.Graph.Basic
import StabilizerPrep.Matrix.Basic

/-!
# Adjacency matrices

The matrix of a graph has a one where its row and its column are joined.
-/

namespace StabilizerPrep.Graph

set_option autoImplicit false

def adjacency (graph : Graph) : Matrix :=
  .ofRows graph.size graph.neighbourhoods

end StabilizerPrep.Graph
