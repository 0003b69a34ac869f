/-!
# Powers and sums

The program needs no algebra, so its powers and sums of natural numbers are
those of the core library. The theory loads the algebraic hierarchy, which has
further instances for them. The instances below come before those, and `2 ^ n`
and `List.sum` mean one thing in the program and in the theory.
-/

namespace StabilizerPrep

set_option autoImplicit false

@[default_instance 20000] instance (priority := 2000) natPow : Pow Nat Nat :=
  instPowNat

instance (priority := 2000) natZero : Zero Nat :=
  .ofOfNat0

end StabilizerPrep
