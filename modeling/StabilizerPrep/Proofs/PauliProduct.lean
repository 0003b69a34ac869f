import StabilizerPrep.Pauli.Basic
import StabilizerPrep.Proofs.Bits

/-!
# Products of Pauli operators

Multiplication is associative with exact phases. Hermitian operators that
commute have a Hermitian product, and each of them is its own inverse, so the
products of commuting Hermitian operators depend on the selected factors only
through exclusive or.
-/

namespace StabilizerPrep.Pauli

set_option autoImplicit false

open Mask StabilizerPrep.Matrix

theorem mul_eq (first second : Pauli) :
    first * second =
      ⟨first.qubits, first.x ^^^ second.x, first.z ^^^ second.z,
        (first.phase + second.phase + 2 * (dot first.z second.x).toNat) % 4,
        Nat.mod_lt _ (by decide)⟩ := rfl

theorem commutes_eq (first second : Pauli) :
    first.commutes second = (dot first.x second.z == dot first.z second.x) := by
  rw [commutes, parity_xor]
  change (!(dot first.x second.z != dot first.z second.x)) = _
  cases dot first.x second.z <;> cases dot first.z second.x <;> rfl

theorem commutes_comm (first second : Pauli) : first.commutes second = second.commutes first := by
  rw [commutes_eq, commutes_eq, dot_comm second.x, dot_comm second.z, Bool.beq_comm]

@[simp] theorem commutes_self (pauli : Pauli) : pauli.commutes pauli = true := by
  rw [commutes_eq, dot_comm, beq_self_eq_true]

/-- A product commutes with an operator when both factors do or neither does. -/
theorem commutes_mul_left (first second third : Pauli) :
    (first * second).commutes third = (first.commutes third == second.commutes third) := by
  rw [mul_eq, commutes_eq, commutes_eq, commutes_eq]
  simp only [dot_xor_left]
  cases dot first.x third.z <;> cases dot first.z third.x <;> cases dot second.x third.z <;>
    cases dot second.z third.x <;> rfl

theorem mul_assoc (first second third : Pauli) :
    first * second * third = first * (second * third) := by
  ext <;> simp only [mul_eq, dot_xor_left, dot_xor_right, Nat.xor_assoc]
  cases dot first.z second.x <;> cases dot first.z third.x <;> cases dot second.z third.x <;>
    simp <;> omega

theorem mul_comm_of_commutes {first second : Pauli} (same : first.qubits = second.qubits)
    (commuting : first.commutes second = true) : first * second = second * first := by
  rw [commutes_eq, beq_iff_eq] at commuting
  simp only [mul_eq, same, Nat.xor_comm second.x, Nat.xor_comm second.z]
  rw [dot_comm second.z, commuting, Nat.add_comm second.phase]

theorem qubits_mul (first second : Pauli) : (first * second).qubits = first.qubits :=
  rfl

structure InRange (qubits : Nat) (pauli : Pauli) : Prop where
  size : pauli.qubits = qubits
  x_lt : pauli.x < 2 ^ qubits
  z_lt : pauli.z < 2 ^ qubits

theorem InRange.mul {qubits : Nat} {first second : Pauli} (firstRange : first.InRange qubits)
    (secondRange : second.InRange qubits) :
    (first * second).InRange qubits where
  size := firstRange.size
  x_lt := Nat.xor_lt_two_pow firstRange.x_lt secondRange.x_lt
  z_lt := Nat.xor_lt_two_pow firstRange.z_lt secondRange.z_lt

theorem identity_mul {qubits : Nat} {pauli : Pauli} (size : pauli.qubits = qubits) :
    identity qubits * pauli = pauli := by
  rw [mul_eq]
  simp [identity, ← size, Nat.mod_eq_of_lt pauli.phase_lt]

theorem mul_identity (pauli : Pauli) (qubits : Nat) : pauli * identity qubits = pauli := by
  rw [mul_eq]
  simp [identity, Nat.mod_eq_of_lt pauli.phase_lt]

theorem sign_of_masks (qubits x z : Nat) (negative : Bool) :
    (ofMasks qubits x z negative).sign = some negative := by
  have bound := Nat.mod_lt (Mask.weight (x &&& z)) (show 0 < 4 by decide)
  have value : (ofMasks qubits x z negative).prefactor = 2 * negative.toNat := by
    simp only [prefactor, ofMasks]
    cases negative
    · simp
    · simp
      omega
  rw [sign, value]
  cases negative <;> rfl

theorem eq_of_masks_of_sign {pauli : Pauli} {negative : Bool}
    (signed : pauli.sign = some negative) :
    pauli = ofMasks pauli.qubits pauli.x pauli.z negative := by
  have bound := pauli.phase_lt
  have factor : pauli.prefactor = 2 * negative.toNat := by
    unfold sign at signed
    split at signed <;> simp_all
  have phase : pauli.phase =
      (Mask.weight (pauli.x &&& pauli.z) + 2 * negative.toNat) % 4 := by
    unfold prefactor at factor
    cases negative <;> simp only [Bool.toNat_false, Bool.toNat_true] at factor ⊢ <;> omega
  ext
  · rfl
  · rfl
  · rfl
  · exact phase

theorem is_some_sign_iff (pauli : Pauli) :
    pauli.sign.isSome = true ↔ pauli.phase % 2 = Mask.weight (pauli.x &&& pauli.z) % 2 := by
  have even : pauli.sign.isSome = true ↔ pauli.prefactor % 2 = 0 := by
    have bound : pauli.prefactor < 4 := Nat.mod_lt _ (by decide)
    have values : pauli.prefactor = 0 ∨ pauli.prefactor = 1 ∨ pauli.prefactor = 2 ∨
        pauli.prefactor = 3 := by omega
    rcases values with value | value | value | value <;> simp [sign, value]
  rw [even, prefactor]
  omega

theorem commutes_iff_weight (first second : Pauli) :
    first.commutes second = true ↔
      Mask.weight (first.x &&& second.z) % 2 = Mask.weight (second.x &&& first.z) % 2 := by
  have sum := weight_xor_mod_two (first.x &&& second.z) (first.z &&& second.x)
  rw [commutes, parity, Nat.and_comm second.x]
  simp only [Bool.not_eq_true', beq_eq_false_iff_ne]
  omega

/-- Hermitian operators have a Hermitian product exactly when they commute. -/
theorem is_some_sign_mul_iff {first second : Pauli} (firstHermitian : first.sign.isSome = true)
    (secondHermitian : second.sign.isSome = true) :
    (first * second).sign.isSome = true ↔ first.commutes second = true := by
  have expanded := weight_and_xor_mod_two first.x first.z second.x second.z
  rw [is_some_sign_iff] at firstHermitian secondHermitian
  rw [is_some_sign_iff, commutes_iff_weight, mul_eq]
  simp only
  omega

theorem is_some_sign_of_masks (qubits x z : Nat) (negative : Bool) :
    (ofMasks qubits x z negative).sign.isSome = true := by
  rw [sign_of_masks]
  rfl

theorem of_masks_mul_of_masks {firstX firstZ secondX secondZ : Nat}
    (commuting : dot firstX secondZ = dot firstZ secondX) (qubits : Nat)
    (firstSign secondSign : Bool) :
    ∃ negative, ofMasks qubits firstX firstZ firstSign * ofMasks qubits secondX secondZ secondSign =
      ofMasks qubits (firstX ^^^ secondX) (firstZ ^^^ secondZ) negative := by
  have hermitian := (is_some_sign_mul_iff (is_some_sign_of_masks qubits firstX firstZ firstSign)
    (is_some_sign_of_masks qubits secondX secondZ secondSign)).2
      (by rw [commutes_eq, beq_iff_eq]; exact commuting)
  obtain ⟨negative, signed⟩ := Option.isSome_iff_exists.1 hermitian
  exact ⟨negative, eq_of_masks_of_sign signed⟩

theorem of_masks_mul_self (qubits x z : Nat) (negative : Bool) :
    ofMasks qubits x z negative * ofMasks qubits x z negative = identity qubits := by
  have bit : (dot z x).toNat = Mask.weight (x &&& z) % 2 := by
    rw [dot_comm, dot, parity]
    rcases Nat.mod_two_eq_zero_or_one (Mask.weight (x &&& z)) with even | odd
    · simp [even]
    · simp [odd]
  ext <;> simp only [mul_eq, ofMasks, identity, Nat.xor_self, bit]
  cases negative <;> simp <;> omega

/-- The product of the selected operators of a list. -/
def choose (qubits : Nat) : List Pauli → Nat → Pauli
  | [], _ => identity qubits
  | pauli :: others, selection =>
      (if selection.testBit 0 then pauli else identity qubits) *
        choose qubits others (selection / 2)

/-- Operators on the same qubits that commute with each other and are their
own inverses. -/
structure Commuting (qubits : Nat) (paulis : List Pauli) : Prop where
  size : ∀ pauli ∈ paulis, pauli.qubits = qubits
  involutive : ∀ pauli ∈ paulis, pauli * pauli = identity qubits
  commute : ∀ first ∈ paulis, ∀ second ∈ paulis, first.commutes second = true

theorem Commuting.tail {qubits : Nat} {pauli : Pauli} {others : List Pauli}
    (commuting : Commuting qubits (pauli :: others)) : Commuting qubits others where
  size other member := commuting.size other (List.mem_cons_of_mem _ member)
  involutive other member := commuting.involutive other (List.mem_cons_of_mem _ member)
  commute first firstMember second secondMember :=
    commuting.commute first (List.mem_cons_of_mem _ firstMember) second
      (List.mem_cons_of_mem _ secondMember)

theorem qubits_choose {qubits : Nat} {paulis : List Pauli}
    (size : ∀ pauli ∈ paulis, pauli.qubits = qubits) (selection : Nat) :
    (choose qubits paulis selection).qubits = qubits := by
  cases paulis with
  | nil => rfl
  | cons pauli others =>
      rw [choose, qubits_mul]
      split
      · exact size pauli List.mem_cons_self
      · rfl

theorem choose_masks (qubits : Nat) (paulis : List Pauli) (selection : Nat) :
    (choose qubits paulis selection).x = combine (paulis.map (·.x)) selection ∧
      (choose qubits paulis selection).z = combine (paulis.map (·.z)) selection := by
  induction paulis generalizing selection with
  | nil => exact ⟨rfl, rfl⟩
  | cons pauli others ih =>
      obtain ⟨xs, zs⟩ := ih (selection / 2)
      rw [choose, mul_eq]
      simp only [List.map_cons, combine, xs, zs]
      constructor <;> split <;> rfl

theorem choose_zero {qubits : Nat} {paulis : List Pauli} :
    choose qubits paulis 0 = identity qubits := by
  induction paulis with
  | nil => rfl
  | cons pauli others ih =>
      rw [choose, Nat.zero_testBit, if_neg (by decide), Nat.zero_div, ih]
      exact identity_mul rfl

theorem commutes_choose (qubits : Nat) {pauli : Pauli} {others : List Pauli}
    (commuting : ∀ other ∈ others, pauli.commutes other = true) (selection : Nat) :
    pauli.commutes (choose qubits others selection) = true := by
  induction others generalizing selection with
  | nil =>
      rw [commutes_eq]
      simp [choose, identity]
  | cons other others ih =>
      have first := commuting other List.mem_cons_self
      have rest := ih (fun later member => commuting later (List.mem_cons_of_mem _ member))
        (selection / 2)
      rw [commutes_eq, beq_iff_eq] at first rest ⊢
      rw [choose, mul_eq]
      simp only [dot_xor_right, rest]
      split
      · rw [first]
      · simp [identity]

/-- Selections are added where operators are multiplied. -/
theorem choose_xor {qubits : Nat} {paulis : List Pauli} (commuting : Commuting qubits paulis)
    (first second : Nat) :
    choose qubits paulis (first ^^^ second) =
      choose qubits paulis first * choose qubits paulis second := by
  induction paulis generalizing first second with
  | nil => exact (identity_mul rfl).symm
  | cons pauli others ih =>
      have own := commuting.size pauli List.mem_cons_self
      have firstSize := qubits_choose commuting.tail.size (first / 2)
      have secondSize := qubits_choose commuting.tail.size (second / 2)
      have moved : choose qubits others (first / 2) * pauli =
          pauli * choose qubits others (first / 2) := by
        refine (mul_comm_of_commutes (own.trans firstSize.symm) ?_).symm
        exact commutes_choose qubits (fun other member => commuting.commute pauli List.mem_cons_self
          other (List.mem_cons_of_mem _ member)) (first / 2)
      simp only [choose, Nat.xor_div_two, ih commuting.tail, Nat.testBit_xor]
      cases first.testBit 0 <;> cases second.testBit 0 <;>
        simp only [bne_self_eq_false, Bool.false_bne, Bool.bne_false, Bool.false_eq_true,
          if_false, if_true]
      · rw [identity_mul firstSize, identity_mul secondSize,
          identity_mul ((qubits_mul _ _).trans firstSize)]
      · rw [identity_mul firstSize, ← mul_assoc _ pauli, moved, mul_assoc]
      · rw [identity_mul secondSize, mul_assoc]
      · rw [mul_assoc pauli, ← mul_assoc _ pauli, moved, mul_assoc pauli, ← mul_assoc pauli pauli,
          commuting.involutive pauli List.mem_cons_self]

theorem choose_single {qubits : Nat} {paulis : List Pauli}
    (size : ∀ pauli ∈ paulis, pauli.qubits = qubits) (position : Nat) :
    choose qubits paulis (single position) = paulis.getD position (identity qubits) := by
  induction paulis generalizing position with
  | nil => rfl
  | cons pauli others ih =>
      cases position with
      | zero =>
          have none : single 0 / 2 = 0 := by decide
          rw [choose, none, choose_zero, test_bit_single]
          exact mul_identity pauli qubits
      | succ position =>
          have half : single (position + 1) / 2 = single position :=
            Nat.mul_div_cancel (single position) (by decide)
          have others := fun other member => size other (List.mem_cons_of_mem pauli member)
          rw [choose, half, test_bit_single, if_neg (by simp),
            identity_mul (qubits_choose others _), ih others position]
          rfl

theorem exists_choose_eq_of_masks {qubits : Nat} {paulis : List Pauli}
    (commuting : ∀ first ∈ paulis, ∀ second ∈ paulis, first.commutes second = true)
    (hermitian : ∀ pauli ∈ paulis, ∃ negative,
      pauli = ofMasks qubits pauli.x pauli.z negative) (selection : Nat) :
    ∃ negative, choose qubits paulis selection =
      ofMasks qubits (combine (paulis.map (·.x)) selection)
        (combine (paulis.map (·.z)) selection) negative := by
  induction paulis generalizing selection with
  | nil =>
      refine ⟨false, ?_⟩
      simp [choose, identity, ofMasks, combine, weight_zero]
  | cons pauli others ih =>
      obtain ⟨restSign, rest⟩ := ih
        (fun first firstMember second secondMember => commuting first
          (List.mem_cons_of_mem _ firstMember) second (List.mem_cons_of_mem _ secondMember))
        (fun other member => hermitian other (List.mem_cons_of_mem _ member)) (selection / 2)
      have restSize : (choose qubits others (selection / 2)).qubits = qubits := by
        rw [rest]
        rfl
      rw [choose]
      simp only [List.map_cons, combine]
      split
      · obtain ⟨sign, own⟩ := hermitian pauli List.mem_cons_self
        have commutes := commutes_choose qubits (fun other member =>
          commuting pauli List.mem_cons_self other (List.mem_cons_of_mem _ member)) (selection / 2)
        obtain ⟨xs, zs⟩ := choose_masks qubits others (selection / 2)
        rw [commutes_eq, beq_iff_eq, xs, zs] at commutes
        obtain ⟨negative, product⟩ := of_masks_mul_of_masks commutes qubits sign restSign
        refine ⟨negative, ?_⟩
        rw [rest, ← product, ← own]
      · refine ⟨restSign, ?_⟩
        rw [identity_mul restSize, rest, Nat.zero_xor, Nat.zero_xor]

end StabilizerPrep.Pauli
