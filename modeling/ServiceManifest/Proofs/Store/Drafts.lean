import ServiceManifest.Proofs.Keyed
import ServiceManifest.Proofs.Store.Folder

/-!
# Artifacts and the drafts of others

A folder store keeps every artifact in a file of its own, but it prepares it in a sibling, and
another artifact may have that name. A call changes two places: that of its artifact, if it succeeds,
and that of its draft, as soon as its block is entered. So what the last successful call for a path
wrote stands until a call comes along whose draft lies there; then it is gone, though it is still
indexed.
-/

namespace ServiceManifest.FolderStore

open Disk

/-- A call that creates an artifact: what it depends on, its path, the pieces of its text, and the
fault that its block ends with, if any. -/
structure Call where
  dependencies : Dependencies
  path : String
  pieces : List String
  failing : Option Fault

/-- What comes of a call. -/
def answer (store : FolderStore) (call : Call) : Creation FolderStore :=
  store.create call.dependencies call.path call.pieces call.failing

/-- The store after calls. -/
def after (store : FolderStore) (calls : List Call) : FolderStore :=
  calls.foldl (fun store call => (store.answer call).state) store

/-- Where the artifact of a path lies. -/
def placeOf (store : FolderStore) (path : String) : Place :=
  placeIn store.root store.tree.here path

/-- A call succeeds at the place of an artifact. -/
def MakesAt (place : Place) (store : FolderStore) (call : Call) : Prop :=
  (store.answer call).fault = none ∧ store.placeOf call.path = place

/-- A call whose draft lies at a place enters its block. -/
def DraftsAt (place : Place) (store : FolderStore) (call : Call) : Prop :=
  store.enters call.path = true ∧ Path.draftOf (store.placeOf call.path) = place

/-- Somewhere in calls, one is made to a store of which something holds. -/
def Somewhere (p : FolderStore → Call → Prop) (store : FolderStore) (calls : List Call) : Prop :=
  ∃ before call rest, calls = before ++ call :: rest ∧ p (store.after before) call

section Somewhere

variable {p : FolderStore → Call → Prop} {store : FolderStore}

theorem not_somewhere_nil : ¬Somewhere p store [] := by
  rintro ⟨before, call, rest, h, -⟩
  simp at h

theorem somewhere_cons {call : Call} {rest : List Call} :
    Somewhere p store (call :: rest) ↔ p store call ∨ Somewhere p (store.answer call).state rest := by
  constructor
  · rintro ⟨_ | ⟨first, before⟩, found, more, h, hp⟩
    · obtain ⟨rfl, rfl⟩ := List.cons.inj h
      exact Or.inl hp
    · obtain ⟨rfl, rfl⟩ := List.cons.inj h
      exact Or.inr ⟨before, found, more, rfl, hp⟩
  · rintro (hp | ⟨before, found, more, rfl, hp⟩)
    · exact ⟨[], call, rest, rfl, hp⟩
    · exact ⟨call :: before, found, more, rfl, hp⟩

end Somewhere

section Answer

variable {store : FolderStore} {call : Call} {place : Place}

/-- A call moves no artifact to another place. -/
@[simp] theorem placeOf_answer (path : String) :
    (store.answer call).state.placeOf path = store.placeOf path := by
  have hroot : (store.answer call).state.root = store.root := create_root store _ _ _ _
  have hhere : (store.answer call).state.tree.here = store.tree.here :=
    (reaches_create store call.dependencies call.path call.pieces call.failing).here_eq
  rw [placeOf, hroot, hhere, placeOf]

/-- Calls move no artifact to another place. -/
@[simp] theorem placeOf_after (calls : List Call) (path : String) :
    (store.after calls).placeOf path = store.placeOf path := by
  induction calls generalizing store with
  | nil => rfl
  | cons call rest ih => exact ih.trans (placeOf_answer path)

/-- A call that succeeds makes its changes and records its dependencies. -/
theorem answer_of_fault_eq_none (h : (store.answer call).fault = none) :
    store.enters call.path = true ∧
      (store.answer call).state.tree.file? = Files.after store.tree.file?
        (createdAt (store.placeOf call.path) (String.join call.pieces)) ∧
      (store.answer call).state.entries =
        Keyed.put call.path call.dependencies.toIndexEntry store.entries := by
  cases henters : store.enters call.path with
  | false =>
    obtain ⟨fault, hfault, -⟩ :=
      create_of_not_enters store call.dependencies call.path call.pieces call.failing henters
    cases h.symm.trans hfault
  | true =>
    rcases create_of_enters store call.dependencies call.path call.pieces call.failing henters with
      ⟨-, -, -, hcreated⟩ | ⟨fault, hfault, -⟩
    · exact ⟨rfl, hcreated⟩
    · cases h.symm.trans hfault

/-- A call that fails records nothing, and of the files it changes that of its draft only, which is
gone if its block was entered. -/
theorem answer_of_fault_ne_none (h : (store.answer call).fault ≠ none) :
    (store.answer call).state.tree.file? = Files.after store.tree.file?
        (if store.enters call.path then [(Path.draftOf (store.placeOf call.path), none)] else []) ∧
      (store.answer call).state.entries = store.entries := by
  cases henters : store.enters call.path with
  | false =>
    obtain ⟨fault, -, -, hstate⟩ :=
      create_of_not_enters store call.dependencies call.path call.pieces call.failing henters
    exact hstate
  | true =>
    rcases create_of_enters store call.dependencies call.path call.pieces call.failing henters with
      ⟨hnone, -⟩ | ⟨fault, -, -, hstate⟩
    · exact absurd hnone h
    · exact hstate

/-- A call that succeeds leaves its text at its place. -/
theorem file?_of_makesAt (h : MakesAt place store call) :
    (store.answer call).state.tree.file? place = some (String.join call.pieces).toUTF8 := by
  obtain ⟨hfault, rfl⟩ := h
  rw [(answer_of_fault_eq_none hfault).2.1]
  exact Files.after_of_last _ [_] List.not_mem_nil

/-- A call that drafts at a place leaves no file there. -/
theorem file?_of_draftsAt (h : DraftsAt place store call) :
    (store.answer call).state.tree.file? place = none := by
  obtain ⟨henters, rfl⟩ := h
  by_cases hfault : (store.answer call).fault = none
  · have hne : Path.draftOf (store.placeOf call.path) ≠ store.placeOf call.path := Path.draftOf_ne _
    rw [(answer_of_fault_eq_none hfault).2.1]
    exact Files.after_of_last _ [] (by simpa using hne)
  · rw [(answer_of_fault_ne_none hfault).1, if_pos henters]
    exact Files.after_of_last _ [] List.not_mem_nil

/-- A call that neither succeeds nor drafts at a place leaves what is there. -/
theorem file?_of_not (hmakes : ¬MakesAt place store call) (hdrafts : ¬DraftsAt place store call) :
    (store.answer call).state.tree.file? place = store.tree.file? place := by
  by_cases hfault : (store.answer call).fault = none
  · obtain ⟨henters, hfiles, -⟩ := answer_of_fault_eq_none hfault
    have hplace : store.placeOf call.path ≠ place := fun h => hmakes ⟨hfault, h⟩
    have hdraft : Path.draftOf (store.placeOf call.path) ≠ place := fun h => hdrafts ⟨henters, h⟩
    rw [hfiles]
    exact Files.after_of_not_mem _ (by simp [createdAt, hplace.symm, hdraft.symm])
  · rw [(answer_of_fault_ne_none hfault).1]
    split
    · rename_i henters
      have hdraft : Path.draftOf (store.placeOf call.path) ≠ place := fun h => hdrafts ⟨henters, h⟩
      exact Files.after_of_not_mem _ (by simp [hdraft.symm])
    · rfl

end Answer

section After

variable {store : FolderStore} {calls : List Call} {place : Place}

/-- Where no call succeeds, a file that is missing stays missing. -/
theorem file?_after_of_missing (hmakes : ¬Somewhere (MakesAt place) store calls)
    (hnone : store.tree.file? place = none) : (store.after calls).tree.file? place = none := by
  induction calls generalizing store with
  | nil => exact hnone
  | cons call rest ih =>
    rw [somewhere_cons, not_or] at hmakes
    refine ih hmakes.2 ?_
    by_cases hdrafts : DraftsAt place store call
    · exact file?_of_draftsAt hdrafts
    · exact (file?_of_not hmakes.1 hdrafts).trans hnone

/-- Where no call succeeds, a file is gone if one drafts there, and stays as it was if none does. -/
theorem file?_after (hmakes : ¬Somewhere (MakesAt place) store calls) :
    (Somewhere (DraftsAt place) store calls → (store.after calls).tree.file? place = none) ∧
      (¬Somewhere (DraftsAt place) store calls →
        (store.after calls).tree.file? place = store.tree.file? place) := by
  induction calls generalizing store with
  | nil => exact ⟨fun h => absurd h not_somewhere_nil, fun _ => rfl⟩
  | cons call rest ih =>
    rw [somewhere_cons, not_or] at hmakes
    rw [somewhere_cons]
    obtain ⟨hgone, hkept⟩ := ih hmakes.2
    refine ⟨fun h => ?_, fun h => ?_⟩
    · rcases h with hfirst | hrest
      · have hmissing := file?_after_of_missing hmakes.2 (file?_of_draftsAt hfirst)
        exact hmissing
      · exact hgone hrest
    · rw [not_or] at h
      exact (hkept h.2).trans (file?_of_not hmakes.1 h.1)

/-- Calls one after the other. -/
theorem after_append_cons (store : FolderStore) (before : List Call) (call : Call) (rest : List Call) :
    store.after (before ++ call :: rest) = ((store.after before).answer call).state.after rest :=
  List.foldl_append

/-- No path is indexed twice after calls. -/
theorem nodup_entries_after (h : (Keyed.keys store.entries).Nodup) :
    (Keyed.keys (store.after calls).entries).Nodup := by
  induction calls generalizing store with
  | nil => exact h
  | cons call rest ih =>
    refine ih ?_
    by_cases hfault : (store.answer call).fault = none
    · rw [(answer_of_fault_eq_none hfault).2.2]
      exact Keyed.nodup_keys_put _ _ h
    · rwa [(answer_of_fault_ne_none hfault).2]

/-- A call for a path succeeds. -/
def Makes (path : String) (store : FolderStore) (call : Call) : Prop :=
  (store.answer call).fault = none ∧ call.path = path

/-- What is indexed for a path was indexed before, or it is from the last call for it that
succeeded. -/
theorem get?_entries_after (store : FolderStore) (calls : List Call) (path : String) :
    ¬Somewhere (Makes path) store calls ∧
        Keyed.get? path (store.after calls).entries = Keyed.get? path store.entries ∨
      ∃ before call rest, calls = before ++ call :: rest ∧ Makes path (store.after before) call ∧
        ¬Somewhere (Makes path) ((store.after before).answer call).state rest ∧
        Keyed.get? path (store.after calls).entries = some call.dependencies.toIndexEntry := by
  induction calls generalizing store with
  | nil => exact Or.inl ⟨not_somewhere_nil, rfl⟩
  | cons call rest ih =>
    rcases ih (store.answer call).state with
      ⟨hnone, hentries⟩ | ⟨before, last, more, rfl, hmakes, hlast, hentries⟩
    · by_cases hmakes : Makes path store call
      · refine Or.inr ⟨[], call, rest, rfl, hmakes, hnone, hentries.trans ?_⟩
        rw [(answer_of_fault_eq_none hmakes.1).2.2, ← hmakes.2, Keyed.get?_put_self]
      · refine Or.inl ⟨?_, hentries.trans ?_⟩
        · rw [somewhere_cons, not_or]
          exact ⟨hmakes, hnone⟩
        · by_cases hfault : (store.answer call).fault = none
          · have hne : path ≠ call.path := fun h => hmakes ⟨hfault, h.symm⟩
            rw [(answer_of_fault_eq_none hfault).2.2, Keyed.get?_put_of_ne hne]
          · rw [(answer_of_fault_ne_none hfault).2]
    · exact Or.inr ⟨call :: before, last, more, rfl, hmakes, hlast, hentries⟩

end After

/-- What becomes of the artifact of a path that is indexed: it has a last call for it that succeeded,
with which it is indexed, and it has exactly the text of that call if no later call drafts where it
lies. If one does, its file is gone. -/
structure StandsUnlessDrafted (store : FolderStore) (calls : List Call) (path : String)
    (before : List Call) (call : Call) (rest : List Call) : Prop where
  split : calls = before ++ call :: rest
  makes : Makes path (store.after before) call
  last : ¬Somewhere (Makes path) ((store.after before).answer call).state rest
  indexed : Keyed.get? path (store.after calls).index = some call.dependencies.toIndexEntry
  stands : ¬Somewhere (DraftsAt (store.placeOf path)) ((store.after before).answer call).state rest →
    (store.after calls).tree.file? (store.placeOf path) = some (String.join call.pieces).toUTF8
  gone : Somewhere (DraftsAt (store.placeOf path)) ((store.after before).answer call).state rest →
    (store.after calls).tree.file? (store.placeOf path) = none

/-- Of calls to a new store, whose different paths lead to different places, each that succeeds leaves
its text at its place, and apart from that and from its draft no call changes a file. Every artifact
that is indexed stands as its last successful call made it, unless a later call drafts there. -/
theorem artifacts_stand_unless_drafted_over (root : Path) (tree : Tree) {calls : List Call}
    (hdistinct : ∀ call ∈ calls, ∀ other ∈ calls,
      (ofRoot root tree).placeOf call.path = (ofRoot root tree).placeOf other.path →
        call.path = other.path) :
    let store := ofRoot root tree
    (∀ before call rest, calls = before ++ call :: rest → ∀ place,
      ¬MakesAt place (store.after before) call → ¬DraftsAt place (store.after before) call →
        (store.after (before ++ [call])).tree.file? place = (store.after before).tree.file? place) ∧
      ∀ path ∈ Keyed.keys (store.after calls).index,
        ∃ before call rest, store.StandsUnlessDrafted calls path before call rest := by
  refine ⟨?_, fun path hpath => ?_⟩
  · rintro before call rest - place hmakes hdrafts
    rw [after_append_cons]
    exact file?_of_not hmakes hdrafts
  have hnodup : (Keyed.keys ((ofRoot root tree).after calls).entries).Nodup :=
    nodup_entries_after List.nodup_nil
  rw [index, Keyed.mem_keys_ascending, ← Keyed.get?_isSome_iff] at hpath
  rcases get?_entries_after (ofRoot root tree) calls path with
    ⟨-, hnone⟩ | ⟨before, call, rest, rfl, hmakes, hlast, hentry⟩
  · rw [hnone] at hpath
    cases hpath
  -- Another call at the place of the artifact would be one for its path.
  have hplace : ¬Somewhere (MakesAt ((ofRoot root tree).placeOf path))
      (((ofRoot root tree).after before).answer call).state rest := by
    rintro ⟨between, next, more, rfl, hfault, hnext⟩
    refine hlast ⟨between, next, more, rfl, hfault, ?_⟩
    rw [← hmakes.2]
    refine (hdistinct call (by simp) next (by simp) ?_).symm
    simpa [hmakes.2] using hnext.symm
  have hmade : MakesAt ((ofRoot root tree).placeOf path) ((ofRoot root tree).after before) call :=
    ⟨hmakes.1, (placeOf_after before call.path).trans (congrArg _ hmakes.2)⟩
  obtain ⟨hgone, hkept⟩ := file?_after hplace
  rw [← after_append_cons] at hgone hkept
  exact ⟨before, call, rest, rfl, hmakes, hlast, (Keyed.get?_ascending path hnodup).trans hentry,
    fun hdrafts => (hkept hdrafts).trans (file?_of_makesAt hmade), hgone⟩

/-- Calls for two artifacts, of which the first has the name of the draft of the second. -/
def draftedOver : List Call :=
  [⟨⟨true, []⟩, "META-INF/services/p.I.tmp", ["a\n"], none⟩,
    ⟨⟨true, []⟩, "META-INF/services/p.I", ["b\n"], none⟩]

/-- The first artifact is indexed in the end and its file is gone, moved away as the draft of the
second. -/
theorem draftedOver_loses_artifact :
    let store := ofRoot ⟨"", ["out"]⟩ ⟨[], []⟩
    (∃ before call rest,
      store.StandsUnlessDrafted draftedOver "META-INF/services/p.I.tmp" before call rest) ∧
      Keyed.keys (store.after draftedOver).index =
        ["META-INF/services/p.I", "META-INF/services/p.I.tmp"] ∧
      (store.after draftedOver).tree.file? ["out", "META-INF", "services", "p.I.tmp"] = none ∧
      (store.after draftedOver).tree.file? ["out", "META-INF", "services", "p.I"] =
        some "b\n".toUTF8 := by
  refine ⟨(artifacts_stand_unless_drafted_over ⟨"", ["out"]⟩ ⟨[], []⟩ (by decide +kernel)).2
    "META-INF/services/p.I.tmp" (by decide +kernel), ?_⟩
  decide +kernel

end ServiceManifest.FolderStore
