import StabilizerPrep.CommandLine.Command
import StabilizerPrep.Report.Bases
import StabilizerPrep.Report.Classification
import StabilizerPrep.Report.Devices
import StabilizerPrep.Report.Sample
import StabilizerPrep.Sampling.Choices
import StabilizerPrep.Sampling.Keystream
import StabilizerPrep.Template.Store

/-!
# Carrying out commands

A command is carried out on a source of tables. Its outcome is what it writes
and with which status the program ends. The causes of a failure are told from
the outermost to the innermost.
-/

namespace StabilizerPrep.CommandLine

set_option autoImplicit false

structure Outcome where
  status : Nat
  output : String
  errors : String
  deriving DecidableEq, Repr

structure Failure where
  causes : List String
  deriving DecidableEq, Repr

namespace Failure

def ofFault (fault : Fault) : Failure :=
  ⟨fault.message :: fault.sources⟩

def within (context : String) (failure : Failure) : Failure :=
  ⟨context :: failure.causes⟩

def text (failure : Failure) : String :=
  "Error: " ++ ": ".intercalate failure.causes ++ "\n"

end Failure

namespace Outcome

def success (output : String) : Outcome :=
  ⟨0, output, ""⟩

def failure (output : String) (failure : Failure) : Outcome :=
  ⟨1, output, failure.text⟩

def ofExcept : Except Failure String → Outcome
  | .ok output => success output
  | .error cause => failure "" cause

def ofStop : Stop → Outcome
  | .usage => ⟨2, "", "Error: wrong arguments\n"⟩
  | .version => success "htstab 0.4.0\n"

end Outcome

def orFail {α : Type} : Except Fault α → Except Failure α :=
  Except.mapError Failure.ofFault

def inContext {α : Type} (context : String) : Except Failure α → Except Failure α :=
  Except.mapError (Failure.within context)

def formatOf (name : String) : Except Failure Format :=
  match Format.ofName? name with
  | some format => .ok format
  | none =>
      let names := ", ".intercalate (Format.every.map Format.name)
      .error ⟨[s!"Unknown format: '{name}'. Available: {names}"]⟩

def deviceOf (name : String) : Except Failure Device :=
  let names := ", ".intercalate (Device.every.map Device.name)
  inContext s!"Available connectivities: {names}" (orFail (Device.ofName name))

/-- The valid stabilizer with the given generators. -/
def stabilizerOf (paulis : List String) : Except Failure Stabilizer :=
  inContext ("Invalid stabilizer: " ++ " ".intercalate paulis) (orFail do
    let stabilizer ← Stabilizer.ofTexts paulis
    stabilizer.validate
    .ok stabilizer)

def circuitOf (qubits : Nat) (spec : String) : Except Failure Circuit :=
  inContext s!"Invalid gate specification: '{spec}'"
    ((Circuit.parse qubits spec).mapError fun fault => ⟨[fault.message]⟩)

/-- The supported pairs of a size and a device, where either may be left
open. -/
def selectDevices (qubits : Option Nat) (name : Option String) :
    Except Failure (List (Nat × Device)) := do
  let device ← name.mapM deviceOf
  let selected := Device.supported.filter fun pair =>
    qubits.all (· == pair.1) && device.all (· == pair.2)
  if selected.isEmpty then
    let size := (qubits.map Nat.repr).getD "any number of"
    let kind := (device.map Device.name).getD "any"
    .error ⟨[s!"No template tables for {size} qubits on {kind} connectivity"]⟩
  else .ok selected

def versionText : String :=
  Text.unlines
    ["htstab v0.4.0 - hardware-tailored stabilizer state synthesis",
      "",
      "Components:",
      "  htstab-ir     Clifford circuit representation",
      "  htstab-synth  Classification, templates and synthesis pipeline",
      "  htstab-cli    Command-line interface",
      "",
      "Repository: https://github.com/hiq-lab/htstab",
      "License:    Apache-2.0"]

def drawSample (source : Source) (qubits : Nat) (device : Device) (seed : Nat) :
    Except Fault Sample := do
  device.checkSupported qubits
  let (stabilizer, _) ← Sampling.stabilizer qubits (Sampling.keystream seed)
  let synthesis ← source.run (Store.synthesize stabilizer device)
  Sample.make seed device stabilizer synthesis

/-- The outcome of a sample. It fails if the circuit does not prepare the
stabilizer, but the sample is reported all the same. -/
def sampleOutcome (format : Format) (sample : Sample) : Outcome :=
  let output := sample.report.render format
  if sample.verified then
    .success (output ++
      if format = .text then "✓ Circuit prepares the state exactly\n" else "")
  else
    .failure output ⟨[s!"Circuit does not prepare the sampled state (seed {sample.seed})"]⟩

namespace Command

/-- Carries out a command. The fresh seed serves for a sample without a
seed. -/
def run (source : Source) (freshSeed : Nat) : Command → Outcome
  | .circuit direction paulis device format => .ofExcept do
      let format ← formatOf format
      let stabilizer ← stabilizerOf paulis
      let device ← deviceOf device
      let synthesis ← orFail (source.run (Store.synthesize stabilizer device))
      .ok ((synthesis.report stabilizer device direction).render format)
  | .compress spec qubits device format => .ofExcept do
      let format ← formatOf format
      let circuit ← circuitOf qubits spec
      let device ← deviceOf device
      let compressed ← orFail (source.run (Store.compress circuit device))
      .ok ((circuit.compressionReport compressed device).render format)
  | .classify paulis format => .ofExcept do
      let format ← formatOf format
      let stabilizer ← stabilizerOf paulis
      let report ← orFail do
        let localClass ← StabilizerPrep.classify stabilizer
        localClass.report stabilizer
      .ok (report.render format)
  | .statistics qubits device format => .ofExcept do
      let format ← formatOf format
      let devices ← selectDevices qubits device
      let tables ← orFail (source.run (devices.mapM fun (qubits, device) =>
        Store.statistics qubits device))
      .ok ((Statistics.report source.name tables).render format)
  | .bases qubits device format => .ofExcept do
      let format ← formatOf format
      let device ← deviceOf device
      let table ← orFail (source.run (Store.basisTable qubits device))
      .ok (table.report.render format)
  | .sample qubits device seed format =>
      let sample := do
        let format ← formatOf format
        let device ← deviceOf device
        let sample ← orFail (drawSample source qubits device (seed.getD freshSeed))
        .ok (format, sample)
      match sample with
      | .ok (format, sample) => sampleOutcome format sample
      | .error cause => .failure "" cause
  | .devices => .ofExcept (orFail Device.overview)
  | .version => .success versionText

end Command

end StabilizerPrep.CommandLine
