import ServiceManifest.Command.Program
import ServiceManifest.Proofs.Command.Prepare
import ServiceManifest.Proofs.Disk.Tree

/-!
# What leaves a command

A command ends with an exit code and with one message at most. Only a fault needs more than that: it
is described in the error log, for which the configuration is loaded again and the state folder is
made. A fault that this meets with leaves the command in place of the message. The configuration is
also the first thing that a command looks at. So a file that holds no text, or a document that no
default stands in for, makes every command stop with a fault which cannot be described.
-/

namespace ServiceManifest

namespace Config

/-- A fault in the octets of a configuration file for which no default stands in: they are no UTF-8,
or a document with too many digits in an integer or with too many nested collections. -/
inductive Unsettled (bytes : ByteArray) : Fault → Prop
  | text {fault : Text.Utf8Fault} (htext : Text.ofUtf8 bytes = .error fault) :
    Unsettled bytes (.text fault)
  | digits {text : String} {count : Nat} (htext : Text.ofUtf8 bytes = .ok text)
    (hread : Json.read (String.ofList (Text.unifyLineEnds text.toList)) =
      .error (.tooManyDigits count)) : Unsettled bytes (.json (.tooManyDigits count))
  | depth {text : String} {collection : Json.Collection} (htext : Text.ofUtf8 bytes = .ok text)
    (hread : Json.read (String.ofList (Text.unifyLineEnds text.toList)) =
      .error (.tooDeep collection)) : Unsettled bytes (.json (.tooDeep collection))

/-- The configuration file of the project at a root. -/
def fileOf (environment : Environment) (root : String) : Path :=
  (homeOf environment root).join (Path.ofString "config.json")

section Load

variable {tree : Disk.Tree} {environment : Environment} {root : String} {fault : Fault}

/-- A fault that loading passes on is one in the octets of a file that is there. -/
theorem exists_unsettled_of_document? {path : Path} (hdocument : document? tree path = .error fault)
    (hmalformed : ∀ message, fault ≠ .json (.malformed message))
    (hdisk : ∀ cause, fault ≠ .disk cause) :
    ∃ bytes, tree.read path = .ok bytes ∧ Unsettled bytes fault := by
  unfold document? at hdocument
  split at hdocument
  · cases hdocument
    exact absurd rfl (hdisk _)
  · cases hdocument
  · unfold readDocument readText at hdocument
    cases hread : tree.read path with
    | error cause =>
      rw [hread] at hdocument
      cases hdocument
      exact absurd rfl (hdisk _)
    | ok bytes =>
      refine ⟨bytes, rfl, ?_⟩
      cases htext : Text.ofUtf8 bytes with
      | error cause =>
        simp only [hread, htext] at hdocument
        cases hdocument
        exact .text htext
      | ok text =>
        simp only [hread, htext] at hdocument
        cases hjson : Json.read (String.ofList (Text.unifyLineEnds text.toList)) with
        | ok value =>
          rw [hjson] at hdocument
          cases hdocument
        | error cause =>
          rw [hjson] at hdocument
          cases hdocument
          cases cause with
          | malformed message => exact absurd rfl (hmalformed message)
          | tooManyDigits count => exact .digits htext hjson
          | tooDeep collection => exact .depth htext hjson

/-- A fault in the octets of a file is met with when its document is read. -/
theorem Unsettled.document?_eq {path : Path} {bytes : ByteArray} (h : Unsettled bytes fault)
    (hread : tree.read path = .ok bytes) : document? tree path = .error fault := by
  have hexists : tree.exists? path = .ok true := by
    unfold Disk.Tree.read at hread
    split at hread
    · exact Disk.Tree.exists?_eq_true_iff.mpr ⟨_, _, ‹_›⟩
    · cases hread
    · cases hread
  cases h with
  | text htext => simp only [document?, hexists, readDocument, readText, hread, htext, Except.map]
  | digits htext hjson =>
    simp only [document?, hexists, readDocument, readText, hread, htext, hjson, Except.map,
      Except.mapError]
  | depth htext hjson =>
    simp only [document?, hexists, readDocument, readText, hread, htext, hjson, Except.map,
      Except.mapError]

/-- Loading a configuration fails exactly if its file is there and has such a fault in its octets. -/
theorem load_eq_error_iff : (load tree environment root).outcome = .error fault ↔
    ∃ bytes, tree.read (fileOf environment root) = .ok bytes ∧ Unsettled bytes fault := by
  constructor
  · intro h
    unfold load at h
    simp only at h
    split at h
    · cases h
    · cases h
    · rename_i found hdocument
      split at h
      · cases h
      · cases h
      · rename_i hmalformed hdisk
        cases h
        exact exists_unsettled_of_document? hdocument hmalformed hdisk
  · rintro ⟨bytes, hread, h⟩
    have hdocument := h.document?_eq hread
    rw [fileOf] at hdocument
    cases h <;> simp only [load, hdocument]

end Load

end Config

namespace Command

open Command.Action

/-- What keeps a fault from being described in the error log of the project at a root: the
configuration file has a fault in its octets, the state folder cannot be made, or the error log cannot
be opened there. -/
inductive Hinders (host : Host) (root : String) (tree : Disk.Tree) : Fault → Prop
  | config {bytes : ByteArray} {fault : Fault}
    (hread : tree.read (Config.fileOf host.environment root) = .ok bytes)
    (hfault : Config.Unsettled bytes fault) : Hinders host root tree fault
  | folder {config : Config} {fault : Disk.Fault}
    (hload : (Config.load tree host.environment root).outcome = .ok config)
    (hraise : (tree.raiseFolders (config.home root)).2 = some fault) :
    Hinders host root tree (.disk fault)
  | log {config : Config} {fault : Disk.Fault}
    (hload : (Config.load tree host.environment root).outcome = .ok config)
    (hraise : (tree.raiseFolders (config.home root)).2 = none)
    (hopen : (tree.raiseFolders (config.home root)).1.openPlace
      ((config.home root).join (Path.ofString "error.log")) = .error fault) :
    Hinders host root tree (.disk fault)

/-- How a command that ran is reported: with an exit code and no message if it succeeds or finds that
manifests are stale, and with one message otherwise. -/
inductive Reports : Except Stop Unit → Except Fault Int × String → Prop
  | success : Reports (.ok ()) (.ok ExitCode.success, "")
  | stale : Reports (.error .stale) (.ok ExitCode.stale, "")
  | refused (message : String) :
    Reports (.error (.refused message)) (.ok ExitCode.roundFailed, "Error: " ++ message ++ "\n")
  | round (error : RoundError) : Reports (.error (.failed (.round error)))
    (.ok ExitCode.roundFailed, "Error: " ++ error.message ++ "\n")
  | fault (cause : Fault) (log : Path) : Reports (.error (.failed (.fault cause)))
    (.ok ExitCode.roundFailed, "Error: " ++ (cause.title ++ ": " ++ cause.message ++
      "\n\nFull traceback logged to: " ++ log.toString) ++ "\n")

section Describe

variable (host : Host) (command : Subcommand) (cause : Fault)

/-- Loading the configuration only reads. -/
theorem reads_loadConfig (root : String) : Reads (loadConfig host root) fun tree =>
    faulty (Config.load tree host.environment root).outcome :=
  (reads_files.bind fun tree => reads_attempt (Config.load tree host.environment root)).congr
    fun _ => rfl

/-- Something hinders a description exactly if the configuration cannot be loaded, or the folder or the
error log that it leads to is refused. -/
theorem hinders_iff {root : String} {tree : Disk.Tree} {found : Fault} :
    Hinders host root tree found ↔
      (Config.load tree host.environment root).outcome = .error found ∨
        ∃ config, (Config.load tree host.environment root).outcome = .ok config ∧
          ((∃ fault, (tree.raiseFolders (config.home root)).2 = some fault ∧ found = .disk fault) ∨
            (tree.raiseFolders (config.home root)).2 = none ∧
              ∃ fault, (tree.raiseFolders (config.home root)).1.openPlace
                ((config.home root).join (Path.ofString "error.log")) = .error fault ∧
                  found = .disk fault) := by
  constructor
  · rintro (⟨hread, hfault⟩ | ⟨hload, hraise⟩ | ⟨hload, hraise, hopen⟩)
    · exact Or.inl (Config.load_eq_error_iff.mpr ⟨_, hread, hfault⟩)
    · exact Or.inr ⟨_, hload, Or.inl ⟨_, hraise, rfl⟩⟩
    · exact Or.inr ⟨_, hload, Or.inr ⟨hraise, _, hopen, rfl⟩⟩
  · rintro (hload | ⟨config, hload, ⟨fault, hraise, rfl⟩ | ⟨hraise, fault, hopen, rfl⟩⟩)
    · obtain ⟨bytes, hread, hfault⟩ := Config.load_eq_error_iff.mp hload
      exact .config hread hfault
    · exact .folder hload hraise
    · exact .log hload hraise hopen

/-- A fault is described unless something hinders it, and that is what is met with then. -/
theorem describeFault_run (root : String) (session : Session) :
    (∃ log : Path, ((describeFault host command root cause).run session).1 =
        .ok (cause.title ++ ": " ++ cause.message ++ "\n\nFull traceback logged to: " ++
          log.toString) ∧
      ∀ other, ¬Hinders host (if root = "" then "." else root) session.tree other) ∨
    ∃ other, ((describeFault host command root cause).run session).1 =
        .error (.failed (.fault other)) ∧
      ∀ found, Hinders host (if root = "" then "." else root) session.tree found ↔
        found = other := by
  simp only [hinders_iff]
  unfold describeFault
  simp only
  generalize (if root = "" then "." else root) = base
  obtain ⟨loaded, hloaded, hload⟩ := reads_loadConfig host base session
  cases houtcome : (Config.load session.tree host.environment base).outcome with
  | error other =>
    simp only [houtcome] at hload
    simp only [run_bind, hload]
    exact Or.inr ⟨other, rfl, by simp [eq_comm]⟩
  | ok config =>
    simp only [houtcome, faulty, Except.mapError] at hload
    simp only [run_bind, hload, run_files, run_setFiles, hloaded]
    rcases hraise : session.tree.raiseFolders (config.home base) with ⟨raised, _ | fault⟩
    · simp only [Option.elim_none, run_orDisk_ok, run_log]
      cases hopen : raised.openPlace ((config.home base).join (Path.ofString "error.log")) with
      | error fault =>
        simp only [Disk.Tree.append, hopen, Except.map, run_orDisk_error]
        exact Or.inr ⟨.disk fault, rfl, by simp [hraise, hopen]⟩
      | ok place =>
        simp only [Disk.Tree.append, hopen, Except.map, run_orDisk_ok]
        exact Or.inl ⟨_, rfl, by simp [hraise, hopen]⟩
    · simp only [Option.elim_some, run_orDisk_error]
      exact Or.inr ⟨.disk fault, rfl, by simp [hraise]⟩

end Describe

section Perform

variable (host : Host) (command : Subcommand) (settings : List Setting) (session : Session)

/-- The root below which the error log of a command lies: the one that it was given, if any. -/
def logRoot (settings : List Setting) : String :=
  if Subcommand.rootOf settings = "" then "." else Subcommand.rootOf settings

/-- A command whose action stops with a fault is reported if the fault can be described; otherwise
what hinders this leaves the command. -/
theorem perform_of_fault {cause : Fault} {after : Session}
    (h : (command.action host settings).run session = (.error (.failed (.fault cause)), after)) :
    (Reports (.error (.failed (.fault cause))) (perform host command settings session).2 ∧
        ∀ other, ¬Hinders host (logRoot settings) after.tree other) ∨
      ∃ other, (perform host command settings session).2 = (.error other, "") ∧
        ∀ found, Hinders host (logRoot settings) after.tree found ↔ found = other := by
  unfold perform
  simp only [h]
  rcases describeFault_run host command cause (Subcommand.rootOf settings) after with
    ⟨log, hrun, hclear⟩ | ⟨other, hrun, hhinders⟩
  · refine Or.inl ⟨?_, hclear⟩
    split
    · rename_i hdescribed
      rw [hdescribed] at hrun
      cases hrun
      exact .fault cause log
    · rename_i hdescribed
      rw [hdescribed] at hrun
      cases hrun
    · rename_i hdescribed
      rw [hdescribed] at hrun
      cases hrun
  · refine Or.inr ⟨other, ?_, hhinders⟩
    split
    · rename_i hdescribed
      rw [hdescribed] at hrun
      cases hrun
    · rename_i hdescribed
      rw [hdescribed] at hrun
      cases hrun
      rfl
    · rename_i hother hdescribed
      rw [hdescribed] at hrun
      exact absurd (Except.error.inj hrun) (hother other)

/-- A command that stops for another reason than a fault is reported. -/
theorem perform_of_no_fault
    (h : ∀ cause, ((command.action host settings).run session).1 ≠ .error (.failed (.fault cause))) :
    Reports ((command.action host settings).run session).1
      (perform host command settings session).2 := by
  unfold perform
  simp only
  split
  · rename_i hrun
    rw [hrun]
    exact .success
  · rename_i hrun
    rw [hrun]
    exact .stale
  · rename_i hrun
    rw [hrun]
    exact .refused _
  · rename_i hrun
    rw [hrun]
    exact .round _
  · rename_i hrun
    rw [hrun] at h
    exact absurd rfl (h _)

/-- A command is reported or a fault leaves it. -/
theorem reports_or_escapes :
    Reports ((command.action host settings).run session).1 (perform host command settings session).2 ∨
      ∃ other, (perform host command settings session).2 = (.error other, "") := by
  by_cases hfault : ∃ cause,
      ((command.action host settings).run session).1 = .error (.failed (.fault cause))
  · obtain ⟨cause, hcause⟩ := hfault
    have hrun : (command.action host settings).run session =
      (.error (.failed (.fault cause)), _) := Prod.ext hcause rfl
    rw [hcause]
    exact (perform_of_fault host command settings session hrun).imp And.left
      fun ⟨other, hescapes, _⟩ => ⟨other, hescapes⟩
  · exact Or.inl (perform_of_no_fault host command settings session (not_exists.mp hfault))

/-- A command ends with the exit code of success exactly if its action succeeds. -/
theorem perform_eq_success_iff :
    (perform host command settings session).2.1 = .ok ExitCode.success ↔
      ((command.action host settings).run session).1 = .ok () := by
  constructor
  · intro hexit
    rcases reports_or_escapes host command settings session with hreports | ⟨other, hescapes⟩
    · generalize (perform host command settings session).2 = performed at hreports hexit
      generalize ((command.action host settings).run session).1 = result at hreports ⊢
      cases hreports with
      | success => rfl
      | _ => exact absurd (Except.ok.inj hexit) (by decide)
    · rw [hescapes] at hexit
      cases hexit
  · intro hrun
    have hreports := perform_of_no_fault host command settings session fun cause hfault => by
      cases hrun.symm.trans hfault
    rw [hrun] at hreports
    generalize (perform host command settings session).2 = performed at hreports ⊢
    cases hreports
    rfl

/-- A command that succeeds leaves what its action has done. -/
theorem run_of_perform {after : Session} {errors : String}
    (h : perform host command settings session = (after, .ok ExitCode.success, errors)) :
    (command.action host settings).run session = (.ok (), after) := by
  have hexit := (perform_eq_success_iff host command settings session).mp (by rw [h])
  have hrun : (command.action host settings).run session =
      (.ok (), ((command.action host settings).run session).2) := Prod.ext hexit rfl
  unfold perform at h
  rw [hrun] at h
  rw [hrun, (Prod.mk.inj h).1]

/-- What is reported does not leave the command. -/
theorem Reports.ne {result : Except Stop Unit} {performed : Except Fault Int × String}
    (h : Reports result performed) (other : Fault) : performed ≠ (.error other, "") := by
  cases h <;> nofun

end Perform

end Command

end ServiceManifest
