import ServiceManifest.Proofs.Result
import ServiceManifest.Proofs.Round.Life
import ServiceManifest.Proofs.Round.Unordered

/-!
# What options change

Verification adds a rule and takes none away. So a collection with it does what the one without it does
for as long as it has not failed, and where both fail it does so no later. Verbosity is read only where
something is logged. A round therefore comes to the same under all options under which it gets as far.
-/

namespace ServiceManifest

namespace Collection

variable {verify : Bool} {front occurrences : List Occurrence} {done : Collection}
  {position : Nat} {error : RoundError}

/-- Occurrences behind others that are filed without a violation are filed next. -/
theorem fileAll_append (hfront : (fileAll verify front done).error = none) (back : List Occurrence) :
    fileAll verify (front ++ back) done = fileAll verify back (fileAll verify front done) := by
  induction front generalizing done with
  | nil => rfl
  | cons first rest ih =>
    rw [List.cons_append, fileAll, fileAll]
    rw [fileAll] at hfront
    cases herror : (fileOccurrence verify first done).error with
    | some error => simp [herror] at hfront
    | none =>
      simp only [herror] at hfront ⊢
      exact ih hfront

/-- Occurrences behind a violation are not filed. -/
theorem fileAll_append_of_error (hdone : done.error = none)
    (hfront : (fileAll verify front done).error = some error) (back : List Occurrence) :
    fileAll verify (front ++ back) done = fileAll verify front done := by
  induction front generalizing done with
  | nil => cases hdone.symm.trans hfront
  | cons first rest ih =>
    rw [List.cons_append, fileAll, fileAll]
    rw [fileAll] at hfront
    cases herror : (fileOccurrence verify first done).error with
    | some error => rfl
    | none =>
      simp only [herror] at hfront ⊢
      exact ih herror hfront

/-- Filing fails at a position: the occurrences before it are filed without a violation, and the one
there is not. -/
structure FailsAt (verify : Bool) (done : Collection) (occurrences : List Occurrence) (position : Nat)
    (error : RoundError) : Prop where
  inside : position < occurrences.length
  before : (fileAll verify (occurrences.take position) done).error = none
  there : (fileAll verify (occurrences.take (position + 1)) done).error = some error

/-- Filing that fails does so at a position. -/
theorem exists_failsAt (hdone : done.error = none)
    (herror : (fileAll verify occurrences done).error = some error) :
    ∃ position, FailsAt verify done occurrences position error := by
  induction occurrences generalizing done with
  | nil => cases hdone.symm.trans herror
  | cons first rest ih =>
    rw [fileAll] at herror
    cases hfirst : (fileOccurrence verify first done).error with
    | some other =>
      simp only [hfirst] at herror
      exact ⟨0, Nat.zero_lt_succ _, hdone, by simpa [fileAll, hfirst] using herror⟩
    | none =>
      simp only [hfirst] at herror
      obtain ⟨position, hinside, hbefore, hthere⟩ := ih hfirst herror
      refine ⟨position + 1, Nat.succ_lt_succ hinside, ?_, ?_⟩
      · simpa only [List.take_succ_cons, fileAll, hfirst] using hbefore
      · simpa only [List.take_succ_cons, fileAll, hfirst] using hthere

/-- Filing that fails at a position fails with the error there. -/
theorem FailsAt.error_eq (hdone : done.error = none)
    (h : FailsAt verify done occurrences position error) :
    (fileAll verify occurrences done).error = some error := by
  rw [← List.take_append_drop (position + 1) occurrences, fileAll_append_of_error hdone h.there]
  exact h.there

section Lenient

/-- A registration that stands verification is the same without it. -/
theorem registration_lenient {declaration : Declaration} {ref : TypeRef}
    {found : QualifiedName × String} (h : registration true declaration ref = .ok found) :
    registration false declaration ref = .ok found := by
  obtain ⟨interface, provider⟩ := found
  obtain ⟨hclosest, -, hbinary⟩ := registration_eq_ok_iff.mp h
  exact registration_eq_ok_iff.mpr ⟨hclosest, rfl, hbinary⟩

/-- Types that are filed with verification are filed alike without it. -/
theorem fileRefs_lenient {declaration : Declaration} {refs : List TypeRef}
    (hdone : (fileRefs true declaration refs done).error = none) :
    fileRefs false declaration refs done = fileRefs true declaration refs done := by
  induction refs generalizing done with
  | nil => rfl
  | cons ref rest ih =>
    rw [fileRefs] at hdone
    rw [fileRefs, fileRefs]
    cases hregistration : registration true declaration ref with
    | error fault => simp [hregistration] at hdone
    | ok found =>
      simp only [hregistration] at hdone
      simp only [registration_lenient hregistration]
      exact ih hdone

/-- An occurrence that is filed with verification is filed alike without it. -/
theorem fileOccurrence_lenient {occurrence : Occurrence}
    (hdone : (fileOccurrence true occurrence done).error = none) :
    fileOccurrence false occurrence done = fileOccurrence true occurrence done := by
  unfold fileOccurrence at hdone ⊢
  simp only at hdone ⊢
  split at hdone
  · cases hinterfaces : occurrence.interfaces with
    | error fault => rfl
    | ok refs =>
      rw [hinterfaces] at hdone
      simp only [fileRefs_lenient hdone]
  · rename_i hclass
    rw [if_neg hclass, if_neg hclass]

/-- Occurrences that are filed with verification are filed alike without it. -/
theorem fileAll_lenient (hdone : (fileAll true occurrences done).error = none) :
    fileAll false occurrences done = fileAll true occurrences done := by
  induction occurrences generalizing done with
  | nil => rfl
  | cons first rest ih =>
    rw [fileAll] at hdone
    cases hfirst : (fileOccurrence true first done).error with
    | some error => simp [hfirst] at hdone
    | none =>
      simp only [hfirst] at hdone
      rw [fileAll, fileAll, fileOccurrence_lenient hfirst]
      simp only [hfirst]
      exact ih hdone

/-- Where filing fails without verification, it fails there or before with it. -/
theorem FailsAt.exists_strict (hdone : done.error = none)
    (h : FailsAt false done occurrences position error) :
    ∃ earlier stricter, earlier ≤ position ∧ FailsAt true done occurrences earlier stricter := by
  have herror : (fileAll true (occurrences.take (position + 1)) done).error ≠ none := by
    intro hnone
    rw [← fileAll_lenient hnone, h.there] at hnone
    cases hnone
  obtain ⟨stricter, hstricter⟩ := Option.ne_none_iff_exists'.mp herror
  obtain ⟨earlier, hinside, hbefore, hthere⟩ := exists_failsAt hdone hstricter
  have hle : earlier + 1 ≤ position + 1 := Nat.lt_of_lt_of_le hinside (List.length_take_le _ _)
  rw [List.take_take, Nat.min_eq_left (Nat.le_of_succ_le hle)] at hbefore
  rw [List.take_take, Nat.min_eq_left hle] at hthere
  exact ⟨earlier, stricter, Nat.le_of_succ_le_succ hle,
    Nat.lt_of_lt_of_le hinside (List.length_take_le' _ _), hbefore, hthere⟩

end Lenient

end Collection

namespace Processor

variable {σ : Type} {processor : Processor σ} {resolution : Resolution}

/-- A round comes to the same with options under which its collection does. -/
theorem process_with_options {options : ProcessorOptions}
    (hcollect : ∀ occurrences, resolution.outcome = .ok occurrences →
      collect options.verify occurrences .empty =
        collect processor.options.verify occurrences .empty) :
    let round := processor.process resolution
    let changed := { processor with options := options }.process resolution
    changed.outcome = round.outcome ∧ changed.processor = { round.processor with options := options } := by
  simp only [process]
  split
  · exact ⟨rfl, rfl⟩
  · cases hresolution : resolution.outcome with
    | error failure => exact ⟨rfl, rfl⟩
    | ok occurrences =>
      simp only [hcollect occurrences hresolution]
      split
      · exact ⟨rfl, rfl⟩
      · split <;> exact ⟨rfl, rfl⟩

/-- A round whose collection fails has its error, and leaves the store as it is. -/
theorem process_of_collect_error (hfinished : processor.finished = false)
    {occurrences : List Occurrence} (hresolution : resolution.outcome = .ok occurrences)
    {error : RoundError}
    (herror : (collect processor.options.verify occurrences .empty).error = some error) :
    (processor.process resolution).outcome = .error (.round error) ∧
      (processor.process resolution).processor.state = processor.state :=
  process_of_collected_eq_error resolution hfinished (by simp [collected, hresolution, herror])

/-- Options gate a round and do not alter what it writes. A round that succeeds with verification
succeeds without it, with the same manifests and the same store. One that fails in collecting without
verification fails with it at the same occurrence or before, and neither touches the store. And whether
it is verbose changes neither its outcome nor anything else in the processor after it. -/
theorem options_gate_rounds (processor : Processor σ) (resolution : Resolution) :
    let round (verify verbose : Bool) :=
      { processor with options := ⟨verify, verbose⟩ }.process resolution
    (∀ verbose other artifacts, (round true verbose).outcome = .ok artifacts →
        (round false other).outcome = .ok artifacts ∧
          (round false other).processor =
            { (round true verbose).processor with options := ⟨false, other⟩ }) ∧
      (∀ verbose other occurrences error, processor.finished = false →
        resolution.outcome = .ok occurrences →
        (collect false occurrences .empty).error = some error →
          ∃ position earlier stricter, earlier ≤ position ∧
            Collection.FailsAt false (.start .empty) occurrences position error ∧
            Collection.FailsAt true (.start .empty) occurrences earlier stricter ∧
            (round false other).outcome = .error (.round error) ∧
            (round true verbose).outcome = .error (.round stricter) ∧
            (round false other).processor.state = processor.state ∧
            (round true verbose).processor.state = processor.state) ∧
      ∀ verify verbose other, (round verify other).outcome = (round verify verbose).outcome ∧
        (round verify other).processor =
          { (round verify verbose).processor with options := ⟨verify, other⟩ } := by
  intro round
  refine ⟨fun verbose other artifacts hround => ?_,
    fun verbose other occurrences error hfinished hresolution herror => ?_,
    fun verify verbose other => @process_with_options σ
      { processor with options := ⟨verify, verbose⟩ } resolution ⟨verify, other⟩ fun _ _ => rfl⟩
  · obtain ⟨occurrences, hresolution, herror, -⟩ := process_eq_ok hround
    have hcollect (found : List Occurrence) (hfound : resolution.outcome = .ok found) :
        collect false found .empty = collect true found .empty := by
      obtain rfl : occurrences = found := Except.ok.inj (hresolution.symm.trans hfound)
      exact Collection.fileAll_lenient herror
    obtain ⟨houtcome, hprocessor⟩ := @process_with_options σ
      { processor with options := ⟨true, verbose⟩ } resolution ⟨false, other⟩ hcollect
    exact ⟨houtcome.trans hround, hprocessor⟩
  · obtain ⟨position, hposition⟩ := Collection.exists_failsAt rfl herror
    obtain ⟨earlier, stricter, hle, hearlier⟩ := hposition.exists_strict rfl
    obtain ⟨houtcome, hstate⟩ := @process_of_collect_error σ
      { processor with options := ⟨false, other⟩ } _ hfinished _ hresolution _ herror
    obtain ⟨houtcome', hstate'⟩ := @process_of_collect_error σ
      { processor with options := ⟨true, verbose⟩ } _ hfinished _ hresolution _
      (hearlier.error_eq rfl)
    exact ⟨position, earlier, stricter, hle, hposition, hearlier, houtcome, houtcome', hstate, hstate'⟩

/-- A service, then a class that is marked for the interface and does not descend from it, and then one
whose marker lists nothing. -/
def serviceAndStrangers : List Occurrence :=
  let stranger := { (service "B").declaration with supertypes := [] }
  [service "A", { service "B" with declaration := stranger },
    { service "C" with arguments := some [] }]

/-- The manifest of the service alone. -/
def serviceManifest : Artifact := .ofEntries "m.I" [("m.A", ⟨"m.py", "m"⟩)]

/-- The service alone is written with and without verification. With the other classes behind it the
round fails without verification at the last of them, and with verification there or before. -/
theorem strangers_fail_after_service :
    let round (occurrences : List Occurrence) (verify verbose : Bool) :=
      (start ⟨verify, verbose⟩ MemoryStore.artifactStore .empty).process ⟨[], .ok occurrences⟩
    (round [service "A"] true false).outcome = .ok [serviceManifest] ∧
      (round [service "A"] false true).outcome = .ok [serviceManifest] ∧
      (round serviceAndStrangers false true).outcome =
        .error (.round (.missingArgument "m.C" none)) ∧
      ∃ earlier stricter, Collection.FailsAt true (.start .empty) serviceAndStrangers earlier stricter ∧
        (round serviceAndStrangers true true).outcome = .error (.round stricter) := by
  have hgate (occurrences : List Occurrence) := options_gate_rounds
    (start ⟨false, false⟩ MemoryStore.artifactStore .empty) ⟨[], .ok occurrences⟩
  have hservice : ((start ⟨true, false⟩ MemoryStore.artifactStore .empty).process
      ⟨[], .ok [service "A"]⟩).outcome = .ok [serviceManifest] :=
    eq_ok_of_toOption (by decide +kernel)
  obtain ⟨-, earlier, stricter, -, -, hearlier, hlenient, hstrict, -⟩ :=
    (hgate serviceAndStrangers).2.1 true true _ (.missingArgument "m.C" none) rfl rfl
      (by decide +kernel)
  exact ⟨hservice, ((hgate [service "A"]).1 false true _ hservice).1, hlenient, earlier, stricter,
    hearlier, hstrict⟩

end Processor

end ServiceManifest
