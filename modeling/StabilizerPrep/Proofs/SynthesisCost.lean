import StabilizerPrep.Proofs.BundledSynthesis
import StabilizerPrep.Proofs.DependencyChains
import StabilizerPrep.Proofs.InverseCircuits

/-!
# The cost of a synthesis

All two-qubit instructions of a synthesized circuit come from its template: in
front of them stand gates `x` and behind them the inverse of a layer. So the
circuit costs what the template costs, it runs where the template runs, and the
same holds of the readout circuit, which has these instructions backwards.
-/

namespace StabilizerPrep.Store

set_option autoImplicit false

theorem runs_on_iff {coupling : Graph} {circuit : Circuit} :
    RunsOn coupling circuit ↔ ∀ instruction ∈ circuit.twoQubit, ∃ first second,
      instruction.qubits = [first, second] ∧ coupling.adjacent first second = true := by
  unfold RunsOn Circuit.twoQubit
  simp only [List.mem_filter, and_imp]

theorem runs_on_congr {coupling : Graph} {first second : Circuit}
    (same : first.twoQubit = second.twoQubit) :
    RunsOn coupling first ↔ RunsOn coupling second := by
  rw [runs_on_iff, runs_on_iff, same]

theorem runs_on_inverse {coupling : Graph} {circuit : Circuit} (wellFormed : circuit.WellFormed) :
    RunsOn coupling circuit.inverse ↔ RunsOn coupling circuit := by
  rw [runs_on_iff, runs_on_iff, Circuit.two_qubit_inverse wellFormed]
  simp only [List.mem_reverse]

theorem exists_coupling {device : Device} {qubits : Nat}
    (supported : device.checkSupported qubits = .ok ()) :
    ∃ coupling, device.coupling qubits = .ok coupling := by
  obtain ⟨_, -, listed⟩ := exists_of_bind_ok supported
  unfold Device.coupling
  rw [supported]
  change ∃ coupling, device.shape qubits = .ok coupling
  cases device with
  | t =>
      -- only the dandelion needs a number of vertices, and it has one size
      have five : ∀ pair ∈ Device.supported, pair.2 = .t → pair.1 = 5 := by decide
      split at listed
      next member =>
          obtain rfl : qubits = 5 := five (qubits, .t) (List.contains_iff_mem.1 member) rfl
          exact ⟨_, rfl⟩
      next => cases listed
  | _ => exact ⟨_, rfl⟩

theorem Grounded.two_qubit {stabilizer : Stabilizer} {synthesis : Synthesis}
    (grounded : Grounded stabilizer synthesis) :
    synthesis.circuit.twoQubit = synthesis.template.circuit.twoQubit := by
  obtain ⟨localClass, template, -, ⟨-, wellFormed⟩, done⟩ := grounded
  have kept := (Template.two_qubit_prepare wellFormed done).2
  obtain ⟨graph, layer, circuit, -, -, -, -, rfl⟩ := Template.prepare_ok done
  exact kept

/-- Synthesis adds no two-qubit gates. Over any source and after any requests, a
synthesis has the two-qubit instructions of its template in their order, and
hence its metrics. Readout gives the inverse circuit, which has the same
metrics. Both run on the coupling graph of the device if the template does. -/
theorem synthesis_keeps_cost (source : Source) (earlier later : List Request)
    {stabilizer : Stabilizer} {device : Device} {synthesis : Synthesis}
    (done : (perform (synthesize stabilizer device) (after source earlier)).1 = .ok synthesis) :
    synthesis.circuit.twoQubit = synthesis.template.circuit.twoQubit ∧
    synthesis.circuit.metrics = synthesis.template.circuit.metrics ∧
    ∃ behind coupling,
      (perform (readout stabilizer device) (after source later)).1 = .ok behind ∧
      behind = synthesis.circuit.inverse ∧
      behind.metrics = synthesis.template.circuit.metrics ∧
      device.coupling stabilizer.qubits = .ok coupling ∧
      (RunsOn coupling synthesis.template.circuit →
        RunsOn coupling synthesis.circuit ∧ RunsOn coupling behind) := by
  have faithful := faithful_after source earlier
  have grounded := (keeps_synthesize stabilizer device _ faithful).2 synthesis done
  have same := grounded.two_qubit
  have metrics := Circuit.metrics_congr same
  rw [fst_perform_synthesize faithful] at done
  have read : (perform (readout stabilizer device) (after source later)).1 =
      .ok synthesis.circuit.inverse := by
    rw [fst_perform_readout (faithful_after source later), done]
    rfl
  obtain ⟨_, supported, -⟩ := exists_of_bind_ok done
  obtain ⟨coupling, drawn⟩ := exists_coupling supported
  refine ⟨same, metrics, _, coupling, read, rfl, ?_, drawn, ?_⟩
  · rw [Circuit.metrics_inverse grounded.well_formed, metrics]
  · intro runs
    have own := (runs_on_congr same).2 runs
    exact ⟨own, (runs_on_inverse grounded.well_formed).2 own⟩

/-- A template that ends with a swap, for a Bell state with a sign whose readout
is asked for later. -/
theorem synthesis_keeps_cost_bell :
    let source := Source.memory [(tableName 2 .all, "0:0:0:h0 h1\n1:4:4:h0 h1 cz0,1 swap1,0")]
    let bell := Stabilizer.ofGenerators [⟨0b11, 0, false⟩, ⟨0, 0b11, true⟩]
    let template : Template :=
      ⟨1, 4, 4, ⟨2, [⟨.h, [0]⟩, ⟨.h, [1]⟩, ⟨.cz, [0, 1]⟩, ⟨.swap, [1, 0]⟩]⟩⟩
    let circuit : Circuit := ⟨2, [⟨.x, [1]⟩, ⟨.h, [0]⟩, ⟨.h, [1]⟩, ⟨.cz, [0, 1]⟩,
      ⟨.swap, [1, 0]⟩, ⟨.sdg, [1]⟩, ⟨.h, [0]⟩, ⟨.sdg, [0]⟩]⟩
    (perform (synthesize bell .all) (after source [])).1 =
      .ok ⟨⟨.two .entangled, ⟨[[0, 1]]⟩, 1⟩, template, ⟨[.hs, .s]⟩, circuit⟩ ∧
    circuit.twoQubit = template.circuit.twoQubit ∧
    circuit.metrics = template.circuit.metrics ∧
    ∃ behind coupling,
      (perform (readout bell .all) (after source [.synthesis bell .all])).1 = .ok behind ∧
      behind = circuit.inverse ∧
      behind.metrics = template.circuit.metrics ∧
      Device.all.coupling bell.qubits = .ok coupling ∧
      RunsOn coupling circuit ∧ RunsOn coupling behind := by
  intro source bell template circuit
  have done : (perform (synthesize bell .all) (after source [])).1 =
      .ok ⟨⟨.two .entangled, ⟨[[0, 1]]⟩, 1⟩, template, ⟨[.hs, .s]⟩, circuit⟩ := by
    unfold source bell template circuit
    rfl
  obtain ⟨same, metrics, behind, coupling, read, inverse, backwards, drawn, runs⟩ :=
    synthesis_keeps_cost source [] [.synthesis bell .all] done
  have coupled : RunsOn coupling template.circuit := by
    obtain rfl : Graph.complete 2 = coupling := Except.ok.inj drawn
    apply runs_on_iff.2
    intro instruction member
    rcases List.mem_pair.1 member with rfl | rfl
    · exact ⟨0, 1, rfl, rfl⟩
    · exact ⟨1, 0, rfl, rfl⟩
  exact ⟨done, same, metrics, behind, coupling, read, inverse, backwards, drawn, runs coupled⟩

end StabilizerPrep.Store
