import ServiceManifest.Command.Actions

/-!
# Actions that only read

Before a command writes anything, it looks at the files, logs and prints. Such an action leaves the
files as they are, and what it comes to hangs on them alone.
-/

namespace ServiceManifest.Command

/-- The stop that a fault makes. -/
def faulty {α : Type} (result : Except Fault α) : Except Stop α :=
  result.mapError fun cause => .failed (.fault cause)

namespace Action

variable {α β : Type}

/-- A run of an action, and then of the next. -/
theorem run_bind (action : Action α) (next : α → Action β) (session : Session) :
    (action >>= next).run session =
      match action.run session with
      | (.ok value, after) => (next value).run after
      | (.error reason, after) => (.error reason, after) := by
  change (ExceptT.bind action next).run session = _
  simp only [ExceptT.bind, ExceptT.run, ExceptT.mk]
  change (StateT.bind _ _) session = _
  simp only [StateT.bind]
  rcases action session with ⟨_ | _, _⟩ <;> rfl

/-- Of actions that follow each other, both succeed if the last does. -/
theorem exists_of_run_bind_eq_ok {action : Action α} {next : α → Action β} {session after : Session}
    {result : β} (h : (action >>= next).run session = (.ok result, after)) :
    ∃ value middle, action.run session = (.ok value, middle) ∧
      (next value).run middle = (.ok result, after) := by
  rw [run_bind] at h
  split at h
  · rename_i value middle hrun
    exact ⟨value, middle, hrun, h⟩
  · cases h

/-- A value leaves the session as it is. -/
@[simp] theorem run_pure (value : α) (session : Session) :
    (pure value : Action α).run session = (.ok value, session) := rfl

/-- The files are those of the session. -/
@[simp] theorem run_files (session : Session) : files.run session = (.ok session.tree, session) := rfl

/-- Replacing the files changes nothing else. -/
@[simp] theorem run_setFiles (tree : Disk.Tree) (session : Session) :
    (setFiles tree).run session = (.ok (), { session with tree := tree }) := rfl

/-- Logging changes nothing else. -/
@[simp] theorem run_log (records : List Log.Record) (session : Session) :
    (log records).run session = (.ok (), { session with records := session.records ++ records }) :=
  rfl

/-- Stopping leaves the session as it is. -/
@[simp] theorem run_stop (reason : Stop) (session : Session) :
    (stop reason : Action α).run session = (.error reason, session) := rfl

/-- An access to the disk that succeeds leaves the session as it is. -/
theorem run_orDisk_ok (value : α) (session : Session) :
    (orDisk (.ok value)).run session = (.ok value, session) := rfl

/-- An access to the disk that fails stops with its fault. -/
theorem run_orDisk_error (cause : Disk.Fault) (session : Session) :
    (orDisk (.error cause) : Action α).run session =
      (.error (.failed (.fault (.disk cause))), session) := rfl

/-- An action that only reads: it comes to a value that hangs on the files and leaves them as they
are. -/
def Reads (action : Action α) (value : Disk.Tree → Except Stop α) : Prop :=
  ∀ session, ∃ after, after.tree = session.tree ∧ action.run session = (value session.tree, after)

/-- A value is not read from the files. -/
theorem reads_pure (value : α) : Reads (pure value) fun _ => .ok value :=
  fun session => ⟨session, rfl, rfl⟩

/-- The files may be read. -/
theorem reads_files : Reads files fun tree => .ok tree := fun session => ⟨session, rfl, rfl⟩

/-- Stopping reads nothing. -/
theorem reads_stop (reason : Stop) : Reads (stop (α := α) reason) fun _ => .error reason :=
  fun session => ⟨session, rfl, rfl⟩

/-- Logging reads nothing. -/
theorem reads_log (records : List Log.Record) : Reads (log records) fun _ => .ok () :=
  fun session => ⟨{ session with records := session.records ++ records }, rfl, rfl⟩

/-- Printing a text reads nothing. -/
theorem reads_printText (text : String) : Reads (printText text) fun _ => .ok () :=
  fun session => ⟨{ session with output := session.output ++ text }, rfl, rfl⟩

/-- The value of a result, or the stop with its fault. -/
theorem reads_orFault (result : Except Fault α) : Reads (orFault result) fun _ => faulty result := by
  intro session
  cases result <;> exact ⟨session, rfl, rfl⟩

/-- A result that is no fault leaves the session as it is. -/
theorem run_orFault_eq_ok {result : Except Fault α} {session after : Session} {value : α}
    (h : (orFault result).run session = (.ok value, after)) : result = .ok value ∧ after = session := by
  cases result <;> cases h
  exact ⟨rfl, rfl⟩

/-- The value of an access to the disk, or the stop with its fault. -/
theorem reads_orDisk (result : Except Disk.Fault α) :
    Reads (orDisk result) fun _ => faulty (result.mapError .disk) := reads_orFault _

/-- Actions that only read may follow each other. -/
theorem Reads.bind {action : Action α} {next : α → Action β} {value : Disk.Tree → Except Stop α}
    {nextValue : α → Disk.Tree → Except Stop β} (haction : Reads action value)
    (hnext : ∀ found, Reads (next found) (nextValue found)) :
    Reads (action >>= next) fun tree => (value tree).bind fun found => nextValue found tree := by
  intro session
  obtain ⟨middle, hmiddle, hrun⟩ := haction session
  rw [run_bind, hrun]
  cases hvalue : value session.tree with
  | error reason => exact ⟨middle, hmiddle, by simp only [hvalue, Except.bind]⟩
  | ok found =>
    obtain ⟨after, hafter, hnextRun⟩ := hnext found middle
    exact ⟨after, hafter.trans hmiddle, by simp only [hvalue, Except.bind, hnextRun, hmiddle]⟩

/-- What an action reads may be written in another way. -/
theorem Reads.congr {action : Action α} {value other : Disk.Tree → Except Stop α}
    (haction : Reads action value) (heq : ∀ tree, value tree = other tree) : Reads action other :=
  funext heq ▸ haction

/-- Of two actions that only read, either may be chosen. -/
theorem Reads.ite {condition : Prop} [Decidable condition] {action other : Action α}
    {value otherValue : Disk.Tree → Except Stop α} (haction : Reads action value)
    (hother : Reads other otherValue) :
    Reads (if condition then action else other) fun tree =>
      if condition then value tree else otherValue tree := by
  split
  · exact haction
  · exact hother

/-- Printing a piece of output reads nothing. -/
theorem reads_print (printed : Console.Printed) : ∃ value, Reads (print printed) value := by
  cases printed with
  | ok text => exact ⟨_, reads_printText text⟩
  | error cause => exact ⟨_, reads_stop (.failed (.fault (.other cause.title cause.message)))⟩

/-- A piece of output without a fault in its markup is printed. -/
theorem run_print_eq_ok {printed : Console.Printed} (h : printed.isOk = true) (session : Session) :
    ∃ after, (print printed).run session = (.ok (), after) ∧ after.tree = session.tree := by
  cases printed with
  | ok text => exact ⟨{ session with output := session.output ++ text }, rfl, rfl⟩
  | error cause => cases h

/-- Printing pieces of output reads nothing. -/
theorem reads_printAll (pieces : List Console.Printed) :
    ∃ value, Reads (printAll pieces) value := by
  induction pieces with
  | nil => exact ⟨_, reads_pure ()⟩
  | cons first rest ih =>
    obtain ⟨_, hfirst⟩ := reads_print first
    obtain ⟨_, hrest⟩ := ih
    exact ⟨_, hfirst.bind fun _ => hrest⟩

/-- An action that only reads leaves the files as they are. -/
theorem Reads.tree_eq {action : Action α} {value : Disk.Tree → Except Stop α}
    (h : Reads action value) (session : Session) : (action.run session).2.tree = session.tree := by
  obtain ⟨after, hafter, hrun⟩ := h session
  rw [hrun, hafter]

/-- The value of something attempted, whose records are logged. -/
theorem reads_attempt (attempted : Attempt α) :
    Reads (attempt attempted) fun _ => faulty attempted.outcome :=
  (reads_log attempted.records).bind fun _ => reads_orFault attempted.outcome

end Action

end ServiceManifest.Command
