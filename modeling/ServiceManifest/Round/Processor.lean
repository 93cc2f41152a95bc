import ServiceManifest.Round.Collect
import ServiceManifest.Round.Emit

/-!
# The life of a processor

A processor runs rounds over one store. A round collects what a resolver found and then emits it. A
round that fails with a round error leads back to the configured phase; any other fault leaves the
phase at collecting. Once the processor is finished it refuses further rounds.
-/

namespace ServiceManifest

/-- The options of a processor: whether providers are checked against their interfaces, and whether
every decision is logged. -/
structure ProcessorOptions where
  verify : Bool
  verbose : Bool
  deriving DecidableEq, Repr

/-- The option that asks for verification. -/
def verifyOption : String := "autoservice.verify"

/-- The option that asks for detailed logs. -/
def verboseOption : String := "autoservice.verbose"

/-- Whether a text says yes: only `true`, in any case and with white space around it, does. -/
def saysTrue (text : String) : Bool :=
  (Text.trimList Text.isBlank text.toList).map Char.toLower = "true".toList

/-- The options that host options stand for. -/
def ProcessorOptions.ofHost (options : Keyed (Option String)) : ProcessorOptions :=
  let enabled (name : String) : Bool := ((Keyed.get? name options).bind id).any saysTrue
  ⟨enabled verifyOption, enabled verboseOption⟩

/-- Where a processor stands. -/
inductive Phase
  | configured
  | collecting
  | emitted
  deriving DecidableEq, Repr

/-- The name of a phase. -/
def Phase.label : Phase → String
  | .configured => "configured"
  | .collecting => "collecting"
  | .emitted => "emitted"

/-- What a resolver answered: the occurrences of the marker or a failure, and what it logged. -/
structure Resolution where
  records : List Log.Record
  outcome : Except Failure (List Occurrence)

/-- A processor with its store. -/
structure Processor (σ : Type) where
  options : ProcessorOptions
  store : ArtifactStore σ
  state : σ
  phase : Phase
  rounds : Nat
  finished : Bool

/-- How a call ended: the processor after it, what was logged, and the result. -/
structure Answer (σ α : Type) where
  processor : Processor σ
  records : List Log.Record
  outcome : Except Failure α

namespace Processor

variable {σ : Type}

/-- A processor that has run no round. -/
def start (options : ProcessorOptions) (store : ArtifactStore σ) (state : σ) : Processor σ :=
  ⟨options, store, state, .configured, 0, false⟩

/-- A message as the processor logs it: only if it is verbose. -/
def report (processor : Processor σ) (message : String) : List Log.Record :=
  if processor.options.verbose then [Log.plain .info message] else []

/-- A note as the processor logs it. -/
def reportNote (processor : Processor σ) : Note → List Log.Record
  | .progress message => processor.report message
  | .record record => [record]

/-- The phase in which a failure leaves a processor. -/
def phaseAfter : Failure → Phase
  | .round _ => .configured
  | .fault _ => .collecting

/-- A round that ends with a failure. -/
def fail (processor : Processor σ) (records : List Log.Record) (failure : Failure) :
    Answer σ (List Artifact) :=
  ⟨{ processor with phase := phaseAfter failure }, records, .error failure⟩

/-- Run one round over the answer of a resolver. -/
def process (processor : Processor σ) (resolution : Resolution) : Answer σ (List Artifact) :=
  if processor.finished then
    ⟨processor, [], .error (.round (.outOfOrder "process() called after finish()" none))⟩
  else
    match resolution.outcome with
    | .error failure => processor.fail resolution.records failure
    | .ok occurrences =>
      let collection := collect processor.options.verify occurrences .empty
      let collected := resolution.records ++ collection.messages.flatMap processor.report
      match collection.error with
      | some error => processor.fail collected (.round error)
      | none =>
        let emission := emit processor.store collection.grouping processor.state
        let records := collected ++ emission.notes.flatMap processor.reportNote
        let after := { processor with state := emission.state }
        match emission.failure with
        | some failure => after.fail records failure
        | none =>
          ⟨{ after with phase := .emitted, rounds := after.rounds + 1 }, records,
            .ok emission.artifacts⟩

/-- End the invocation; later rounds are refused. -/
def finish (processor : Processor σ) : Answer σ Unit :=
  ⟨{ processor with finished := true },
    processor.report ("Finished after " ++ toString processor.rounds ++ " round(s)"), .ok ()⟩

end Processor

end ServiceManifest
