import StabilizerPrep.Proofs.Operators

/-!
# Products as operators

The product of two Pauli operators denotes the composition of the linear maps
that they denote, phase included, and different operators denote different
maps. Two operators commute or their products differ in the sign, and among
Hermitian operators it is the commuting ones that have a Hermitian product.
-/

namespace StabilizerPrep

set_option autoImplicit false

open Mask

theorem imaginary_pow_inj {first second : Nat} :
    imaginary ^ first = imaginary ^ second ↔ first % 4 = second % 4 := by
  refine ⟨fun same => ?_, imaginary_pow_eq⟩
  have reduced : ∀ exponent, imaginary ^ exponent = imaginary ^ (exponent % 4) := fun exponent =>
    imaginary_pow_eq (Nat.mod_mod exponent 4).symm
  have distinct : ∀ low < 4, ∀ high < 4, imaginary ^ low = imaginary ^ high → low = high := by
    decide
  rw [reduced first, reduced second] at same
  exact distinct _ (Nat.mod_lt _ (by decide)) _ (Nat.mod_lt _ (by decide)) same

theorem imaginary_pow_ne_zero (exponent : Nat) : imaginary ^ exponent ≠ 0 :=
  pow_ne_zero exponent (by decide)

theorem neg_one_pow_weight (mask : Nat) :
    (-1 : GaussianInt) ^ weight mask = imaginary ^ (2 * (parity mask).toNat) := by
  have bit : (parity mask).toNat = weight mask % 2 := by
    rw [parity]
    rcases Nat.mod_two_eq_zero_or_one (weight mask) with even | odd
    · simp [even]
    · simp [odd]
  rw [neg_one_pow_eq, imaginary_pow_inj, bit]
  omega

theorem State.smul_basis_inj {width first second low high : Nat}
    (lowBound : low < 2 ^ width) (highBound : high < 2 ^ width) :
    imaginary ^ first • State.basis width low = imaginary ^ second • State.basis width high ↔
      first % 4 = second % 4 ∧ low = high := by
  rw [State.basis, State.basis, Finsupp.smul_single, Finsupp.smul_single, smul_eq_mul, smul_eq_mul,
    mul_one, mul_one, Finsupp.single_eq_single_iff, imaginary_pow_inj]
  have strings : BitVec.ofNat width low = BitVec.ofNat width high ↔ low = high := by
    rw [← BitVec.toNat_inj, BitVec.toNat_ofNat, BitVec.toNat_ofNat,
      Nat.mod_eq_of_lt (show low < 2 ^ width from lowBound),
      Nat.mod_eq_of_lt (show high < 2 ^ width from highBound)]
  rw [strings]
  constructor
  · rintro (⟨same, powers⟩ | ⟨zero, -⟩)
    · exact ⟨powers, same⟩
    · exact absurd zero (imaginary_pow_ne_zero first)
  · rintro ⟨powers, same⟩
    exact .inl ⟨same, powers⟩

namespace Pauli

variable {qubits : Nat} {first second : Pauli}

theorem operator_basis (pauli : Pauli) {mask : Nat} (bound : mask < 2 ^ qubits) :
    pauli.operator qubits (.basis qubits mask) =
      imaginary ^ (pauli.phase + 2 * (dot pauli.z mask).toNat) •
        .basis qubits (mask ^^^ pauli.x) := by
  rw [operator, Operator.of_images_basis _ bound, neg_one_pow_weight, ← pow_add]
  rfl

/-- A product denotes a composition: each factor `Z` of the first operator sees
the strings that the second one has already moved. -/
theorem operator_mul (first : Pauli) (inside : second.x < 2 ^ qubits) :
    (first * second).operator qubits = first.operator qubits * second.operator qubits := by
  apply Operator.ext_basis
  intro mask bound
  rw [Module.End.mul_apply, operator_basis second bound, map_smul,
    operator_basis first (Nat.xor_lt_two_pow bound inside), operator_basis (first * second) bound,
      smul_smul, ← pow_add, mul_eq]
  dsimp only
  rw [Nat.xor_assoc mask, Nat.xor_comm first.x]
  congr 1
  apply imaginary_pow_eq
  rw [dot_xor_left, dot_xor_right]
  have signs := two_mul_bne (dot first.z mask) (dot second.z mask)
  have passed := two_mul_bne (dot first.z mask) (dot first.z second.x)
  omega

theorem eq_of_operator (firstRange : first.InRange qubits) (secondRange : second.InRange qubits)
    (same : first.operator qubits = second.operator qubits) : first = second := by
  have images : ∀ mask < 2 ^ qubits,
      (first.phase + 2 * (dot first.z mask).toNat) % 4 =
          (second.phase + 2 * (dot second.z mask).toNat) % 4 ∧
        mask ^^^ first.x = mask ^^^ second.x := by
    intro mask bound
    have applied := LinearMap.congr_fun same (State.basis qubits mask)
    rw [operator_basis first bound, operator_basis second bound] at applied
    exact (State.smul_basis_inj (Nat.xor_lt_two_pow bound firstRange.x_lt)
      (Nat.xor_lt_two_pow bound secondRange.x_lt)).1 applied
  obtain ⟨phases, moves⟩ := images 0 (Nat.two_pow_pos qubits)
  have firstPhase := first.phase_lt
  have secondPhase := second.phase_lt
  have phase : first.phase = second.phase := by
    rw [dot_zero_right, dot_zero_right] at phases
    omega
  have x : first.x = second.x := by rwa [Nat.zero_xor, Nat.zero_xor] at moves
  have z : first.z = second.z := by
    apply eq_of_test_bit_below firstRange.z_lt secondRange.z_lt
    intro position inside
    have own := (images (single position) (single_lt inside)).1
    rw [dot_single_right, dot_single_right, phase] at own
    cases low : first.z.testBit position <;> cases high : second.z.testBit position <;>
      simp [low, high] at own ⊢ <;> omega
  exact Pauli.ext (firstRange.size.trans secondRange.size.symm) x z phase

theorem mul_eq_negate_mul (same : first.qubits = second.qubits)
    (clash : first.commutes second = false) : first * second = (second * first).negate := by
  rw [commutes_eq, beq_eq_false_iff_ne] at clash
  ext <;> simp only [mul_eq, negate, same, Nat.xor_comm second.x, Nat.xor_comm second.z,
    dot_comm second.z]
  cases crossed : dot first.x second.z <;> cases straight : dot first.z second.x <;>
    simp [crossed, straight] at clash ⊢ <;> omega

/-- Multiplication is exact. A product of operators on the same qubits stays in
range, denotes the composition of the linear maps that its factors denote, and
is the only operator in range that does. So products are associative; they
agree in both orders if the factors commute, and are the negative of each other
if not; and Hermitian operators have a Hermitian product exactly if they
commute. -/
theorem product_exact {qubits : Nat} {first second third : Pauli}
    (firstRange : first.InRange qubits) (secondRange : second.InRange qubits)
    (thirdRange : third.InRange qubits) :
    (first * second).InRange qubits ∧
    (first * second).operator qubits = first.operator qubits * second.operator qubits ∧
    (third.operator qubits = first.operator qubits * second.operator qubits →
      third = first * second) ∧
    first * second * third = first * (second * third) ∧
    (first.commutes second = true → first * second = second * first) ∧
    (first.commutes second = false → first * second = (second * first).negate) ∧
    (first.sign.isSome = true → second.sign.isSome = true →
      ((first * second).sign.isSome = true ↔ first.commutes second = true)) := by
  have same : first.qubits = second.qubits := firstRange.size.trans secondRange.size.symm
  have inRange := firstRange.mul secondRange
  have denoted := operator_mul first secondRange.x_lt
  refine ⟨inRange, denoted, ?_, mul_assoc first second third, mul_comm_of_commutes same,
    mul_eq_negate_mul same, is_some_sign_mul_iff⟩
  intro composed
  exact eq_of_operator thirdRange inRange (composed.trans denoted.symm)

/-- On all 64 qubits: the products of `X` and `Z` on the last one are imaginary
and negatives of each other, and two of either kind commute. -/
theorem product_exact_last :
    let x := ofMasks 64 (single 63) 0 false
    let z := ofMasks 64 0 (single 63) false
    let both := ofMasks 64 (single 62 ^^^ single 63) 0 false
    let ends := ofMasks 64 0 (single 62 ^^^ single 63) false
    x.InRange 64 ∧ z.InRange 64 ∧
      (x * z).operator 64 = x.operator 64 * z.operator 64 ∧
      x * z = (z * x).negate ∧ (x * z).sign = none ∧
      both * ends = ends * both ∧ (both * ends).sign = some true ∧
      x * z * both = x * (z * both) := by
  intro x z both ends
  have one : single 63 < 2 ^ 64 := single_lt (by decide)
  have two : single 62 ^^^ single 63 < 2 ^ 64 := Nat.xor_lt_two_pow (single_lt (by decide)) one
  have none : 0 < 2 ^ 64 := Nat.two_pow_pos 64
  have xRange : x.InRange 64 := ⟨rfl, one, none⟩
  have zRange : z.InRange 64 := ⟨rfl, none, one⟩
  have bothRange : both.InRange 64 := ⟨rfl, two, none⟩
  have endsRange : ends.InRange 64 := ⟨rfl, none, two⟩
  have crossed := product_exact xRange zRange bothRange
  have paired := product_exact bothRange endsRange xRange
  exact ⟨xRange, zRange, crossed.2.1, crossed.2.2.2.2.2.1 (by decide), by decide,
    paired.2.2.2.2.1 (by decide), by decide, crossed.2.2.2.1⟩

end Pauli

end StabilizerPrep
