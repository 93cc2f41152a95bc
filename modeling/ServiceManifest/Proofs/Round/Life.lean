import ServiceManifest.Proofs.Config
import ServiceManifest.Proofs.Round.Exact

/-!
# The life of a processor

A processor is called to run rounds and to finish, in any order and any number of times, and its
rounds may fail at any stage. A round changes the phase, the count of rounds and the store, and it
reads of them the store only. So its answer is that of a new processor over the same store, whatever
came before. The first call that finishes ends this: every later round is refused.
-/

namespace ServiceManifest

namespace Processor

/-- A call to a processor: run a round over what a resolver answers, or finish. -/
inductive Call
  | process (resolution : Resolution)
  | finish

/-- How a round is refused after the end. -/
def refusal : Failure := .round (.outOfOrder "process() called after finish()" none)

/-- The phase that the outcome of a round leads to. -/
def phaseOf : Except Failure (List Artifact) → Phase
  | .ok _ => .emitted
  | .error (.round _) => .configured
  | .error (.fault _) => .collecting

variable {σ : Type}

/-- The processor after calls. -/
def after (processor : Processor σ) : List Call → Processor σ
  | [] => processor
  | .process resolution :: rest => (processor.process resolution).processor.after rest
  | .finish :: rest => processor.finish.processor.after rest

section Step

variable {processor : Processor σ} (resolution : Resolution)

/-- A processor that is finished refuses a round and stays as it is. -/
theorem process_of_finished (h : processor.finished = true) :
    processor.process resolution = ⟨processor, [], .error refusal⟩ := by
  rw [process, if_pos h]
  rfl

/-- A round before the end reads of a processor its options and its store, and changes besides the
store the phase and the count of rounds. -/
theorem process_of_not_finished (h : processor.finished = false) :
    let fresh := (start processor.options processor.store processor.state).process resolution
    processor.process resolution =
      ⟨{ processor with
          state := fresh.processor.state
          phase := phaseOf fresh.outcome
          rounds := processor.rounds + if fresh.outcome.isOk then 1 else 0 },
        fresh.records, fresh.outcome⟩ := by
  obtain ⟨options, store, state, phase, rounds, finished⟩ := processor
  cases h
  simp only [process, start, Bool.false_eq_true, if_false]
  cases hresolution : resolution.outcome with
  | error failure => cases failure <;> rfl
  | ok occurrences =>
    cases herror : (collect options.verify occurrences .empty).error with
    | some error =>
      simp only [herror]
      rfl
    | none =>
      cases hfailure : (emit store (collect options.verify occurrences .empty).grouping state).failure with
      | some failure =>
        simp only [herror, hfailure]
        cases failure <;> rfl
      | none =>
        simp only [herror, hfailure]
        rfl

/-- A round keeps the options, the store and the end. -/
theorem process_keeps (processor : Processor σ) :
    (processor.process resolution).processor.options = processor.options ∧
      (processor.process resolution).processor.store = processor.store ∧
        (processor.process resolution).processor.finished = processor.finished := by
  cases hfinished : processor.finished with
  | true => simp [process_of_finished resolution hfinished, hfinished]
  | false => simp [process_of_not_finished resolution hfinished, hfinished]

/-- What becomes of the occurrences of a round before its store is touched: they are resolved and
collected, or there is a failure. -/
def collected (verify : Bool) (resolution : Resolution) : Except Failure (List Occurrence) :=
  match resolution.outcome with
  | .error failure => .error failure
  | .ok occurrences =>
    match (collect verify occurrences .empty).error with
    | some error => .error (.round error)
    | none => .ok occurrences

/-- A round that fails in resolving or collecting has not touched the store. -/
theorem process_of_collected_eq_error (h : processor.finished = false) {failure : Failure}
    (hcollected : collected processor.options.verify resolution = .error failure) :
    (processor.process resolution).outcome = .error failure ∧
      (processor.process resolution).processor.state = processor.state := by
  unfold collected at hcollected
  unfold process
  rw [if_neg (by simp [h])]
  cases hresolution : resolution.outcome with
  | error other =>
    obtain rfl : other = failure := by simpa [hresolution] using hcollected
    exact ⟨rfl, rfl⟩
  | ok occurrences =>
    cases herror : (collect processor.options.verify occurrences .empty).error with
    | some error =>
      obtain rfl : .round error = failure := by simpa [hresolution, herror] using hcollected
      simp only [herror]
      exact ⟨rfl, rfl⟩
    | none => simp [hresolution, herror] at hcollected

end Step

section Run

variable {processor : Processor σ}

@[simp] theorem finished_process (resolution : Resolution) :
    (processor.process resolution).processor.finished = processor.finished :=
  (process_keeps resolution processor).2.2

/-- Calls one after the other. -/
theorem after_append (before rest : List Call) :
    processor.after (before ++ rest) = (processor.after before).after rest := by
  induction before generalizing processor with
  | nil => rfl
  | cons call before ih => cases call <;> exact ih

end Run

section Round

variable {options : ProcessorOptions} {store : ArtifactStore σ} {state : σ} {resolution : Resolution}

end Round

-- A resolver that raises leaves the phase open until a round returns; the last call is refused.
example :
    let ended := (start ⟨true, false⟩ MemoryStore.artifactStore .empty).after
      [.process ⟨[], .error (.fault (.other "RuntimeError" "no symbols"))⟩, .process ⟨[], .ok []⟩,
        .finish, .process ⟨[], .ok []⟩]
    ended.rounds = 1 ∧ ended.phase = .emitted ∧ ended.finished = true := by
  decide +kernel

end Processor

end ServiceManifest
