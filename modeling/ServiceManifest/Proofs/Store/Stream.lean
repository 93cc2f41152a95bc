import ServiceManifest.Proofs.Store.Drafts
import ServiceManifest.Store.Stream

/-!
# What is asked of a stream

The block of an artifact is entered, its pieces are written in order, and it is left; the first of these
that ends with a fault ends the block. This is seen from the record of all that a store was asked for and
of what came of it. The stores in memory and in folders are the same as the ones that hand out streams.
Both register an artifact only when its block was left without a fault, and raise again what a block is
abandoned for.
-/

namespace ServiceManifest

open Disk

namespace StreamStore

/-- What a store is asked for. -/
inductive Request
  | enter (path : String)
  | write (piece : String)
  | leave
  | abandon
  deriving DecidableEq, Repr

/-- A request, and the fault that it ended with, if any. -/
structure Exchange where
  request : Request
  fault : Option Fault
  deriving DecidableEq, Repr

/-- A block that was entered and pieces that were written in it. -/
def written (path : String) (pieces : List String) : List Exchange :=
  ⟨.enter path, none⟩ :: pieces.map fun piece => ⟨.write piece, none⟩

/-- A block in which all pieces were written, and that was left. -/
def whole (path : String) (pieces : List String) : List Exchange :=
  written path pieces ++ [⟨.leave, none⟩]

variable {σ : Type} (store : StreamStore σ)

/-- The store with a record of all exchanges. -/
def recorded : StreamStore (σ × List Exchange) where
  Block := store.Block × List Exchange
  enter state dependencies path :=
    match store.enter state.1 dependencies path with
    | .error (after, fault) => .error ((after, state.2 ++ [⟨.enter path, some fault⟩]), fault)
    | .ok block => .ok (block, state.2 ++ [⟨.enter path, none⟩])
  write block piece :=
    let (after, fault) := store.write block.1 piece
    ((after, block.2 ++ [⟨.write piece, fault⟩]), fault)
  leave block :=
    let created := store.leave block.1
    ⟨(created.state, block.2 ++ [⟨.leave, created.fault⟩]), created.records, created.fault⟩
  abandon block fault :=
    let (after, raised) := store.abandon block.1 fault
    ((after, block.2 ++ [⟨.abandon, some raised⟩]), raised)

/-- How the block of an artifact breaks off: the exchanges, the fault that broke it off, and the one that
is raised. -/
inductive BreaksOff (path : String) (pieces : List String) : List Exchange → Fault → Fault → Prop
  | entering (fault : Fault) : BreaksOff path pieces [⟨.enter path, some fault⟩] fault fault
  | writing {front rest : List String} {piece : String} (hsplit : pieces = front ++ piece :: rest)
    (fault : Fault) (block : store.Block) :
    BreaksOff path pieces (written path front ++ [⟨.write piece, some fault⟩,
      ⟨.abandon, some (store.abandon block fault).2⟩]) fault (store.abandon block fault).2
  | leaving (fault : Fault) :
    BreaksOff path pieces (written path pieces ++ [⟨.leave, some fault⟩]) fault fault

/-- A store that registers an artifact only when its block was left without a fault, and that raises
again what a block is abandoned for. -/
structure IsStrict (registered : σ → String → Prop) : Prop where
  kept : ∀ state dependencies path pieces other,
    (store.create state dependencies path pieces).fault ≠ none →
      registered (store.create state dependencies path pieces).state other → registered state other
  added : ∀ state dependencies path pieces other,
    (store.create state dependencies path pieces).fault = none →
      registered (store.create state dependencies path pieces).state other →
        other = path ∨ registered state other
  raises : ∀ block fault, (store.abandon block fault).2 = fault

section Create

variable {store} {path : String} {dependencies : Dependencies} {pieces : List String} {state : σ}

/-- Where a piece is put behind the text of a block, so are pieces that are written in order. -/
theorem writeEach_of_append (store : StreamStore σ) (holding : String → store.Block)
    (hwrite : ∀ text piece, store.write (holding text) piece = (holding (text ++ piece), none))
    (text : String) (pieces : List String) :
    store.writeEach (holding text) pieces = (holding (text ++ String.join pieces), none) := by
  induction pieces generalizing text with
  | nil => simp [writeEach]
  | cons piece rest ih =>
    rw [writeEach, hwrite, String.join_cons, ← String.append_assoc]
    exact ih (text ++ piece)

/-- A block that cannot be entered is over. -/
theorem create_of_refused {after : σ} {fault : Fault}
    (henter : store.enter state dependencies path = .error (after, fault)) :
    store.create state dependencies path pieces = ⟨after, [], some fault⟩ := by
  rw [create, henter]

/-- A block in which a write ends with a fault is abandoned. -/
theorem create_of_broken {block : store.Block} {fault : Fault}
    (henter : store.enter state dependencies path = .ok block)
    (hwrites : (store.writeEach block pieces).2 = some fault) :
    store.create state dependencies path pieces =
      ⟨(store.abandon (store.writeEach block pieces).1 fault).1, [],
        some (store.abandon (store.writeEach block pieces).1 fault).2⟩ := by
  rw [create, henter]
  simp only
  split
  · rename_i hnone
    rw [hnone] at hwrites
    cases hwrites
  · rename_i hsome
    rw [hsome] at hwrites ⊢
    cases hwrites
    rfl

/-- A block in which all pieces are written is left. -/
theorem create_of_written {block : store.Block}
    (henter : store.enter state dependencies path = .ok block)
    (hwrites : (store.writeEach block pieces).2 = none) :
    store.create state dependencies path pieces =
      store.leave (store.writeEach block pieces).1 := by
  rw [create, henter]
  simp only
  split
  · rename_i hnone
    rw [hnone]
  · rename_i hsome
    rw [hsome] at hwrites
    cases hwrites

/-- What is recorded of a block that is left. -/
theorem recorded_leave (block : store.Block) (log : List Exchange) :
    store.recorded.leave (block, log) =
      ⟨((store.leave block).state, log ++ [⟨.leave, (store.leave block).fault⟩]),
        (store.leave block).records, (store.leave block).fault⟩ :=
  rfl

/-- What is recorded of a block that is abandoned. -/
theorem recorded_abandon (block : store.Block) (log : List Exchange) (fault : Fault) :
    store.recorded.abandon (block, log) fault =
      (((store.abandon block fault).1, log ++ [⟨.abandon, some (store.abandon block fault).2⟩]),
        (store.abandon block fault).2) :=
  rfl

/-- What is recorded of pieces that are written: all of them, or those up to the first fault. -/
inductive Records (pieces : List String) : List Exchange → Option Fault → Prop
  | all : Records pieces (pieces.map fun piece => ⟨.write piece, none⟩) none
  | upTo {front rest : List String} {piece : String} (hsplit : pieces = front ++ piece :: rest)
    (fault : Fault) :
    Records pieces (front.map (fun piece => ⟨.write piece, none⟩) ++ [⟨.write piece, some fault⟩])
      (some fault)

namespace Records

/-- A piece that is written comes before what is recorded of the others. -/
theorem cons {piece : String} {exchanges : List Exchange} {fault : Option Fault}
    (h : Records pieces exchanges fault) :
    Records (piece :: pieces) (⟨.write piece, none⟩ :: exchanges) fault := by
  cases h with
  | all => exact .all
  | upTo hsplit fault =>
    rw [hsplit]
    exact .upTo (List.cons_append).symm fault

/-- Without a fault all pieces are recorded. -/
theorem eq_map {exchanges : List Exchange} (h : Records pieces exchanges none) :
    exchanges = pieces.map fun piece => ⟨.write piece, none⟩ := by
  cases h
  rfl

/-- With a fault the pieces before one are recorded, and that one with the fault. -/
theorem exists_split {exchanges : List Exchange} {fault : Fault}
    (h : Records pieces exchanges (some fault)) :
    ∃ front piece rest, pieces = front ++ piece :: rest ∧
      exchanges = front.map (fun piece => ⟨.write piece, none⟩) ++ [⟨.write piece, some fault⟩] := by
  cases h with
  | upTo hsplit => exact ⟨_, _, _, hsplit, rfl⟩

end Records

/-- Writing to a store with a record is writing to the store, and the record tells how far it came. -/
theorem recorded_writeEach (pieces : List String) (block : store.Block) (log : List Exchange) :
    ∃ exchanges, Records pieces exchanges (store.writeEach block pieces).2 ∧
      store.recorded.writeEach (block, log) pieces =
        (((store.writeEach block pieces).1, log ++ exchanges), (store.writeEach block pieces).2) := by
  induction pieces generalizing block log with
  | nil => exact ⟨[], .all, by rw [List.append_nil]; rfl⟩
  | cons piece rest ih =>
    rcases hwrite : store.write block piece with ⟨after, _ | fault⟩
    · have hrecorded : store.recorded.write (block, log) piece =
          ((after, log ++ [⟨.write piece, none⟩]), none) := by simp only [recorded, hwrite]
      have hplain : store.writeEach block (piece :: rest) = store.writeEach after rest := by
        simp only [writeEach, hwrite]
      obtain ⟨exchanges, hrecords, hrest⟩ := ih after (log ++ [⟨.write piece, none⟩])
      rw [hplain]
      refine ⟨⟨.write piece, none⟩ :: exchanges, hrecords.cons, ?_⟩
      rw [List.append_cons, ← hrest]
      simp only [writeEach, hrecorded]
    · have hrecorded : store.recorded.write (block, log) piece =
          ((after, log ++ [⟨.write piece, some fault⟩]), some fault) := by
        simp only [recorded, hwrite]
      refine ⟨[⟨.write piece, some fault⟩], ?_, ?_⟩
      · simp only [writeEach, hwrite]
        exact .upTo (List.nil_append _).symm fault
      · simp only [writeEach, hwrite, hrecorded]
        rfl

/-- A block with a record goes as it does without, and the record has either the whole block or how it
broke off. -/
theorem recorded_create (store : StreamStore σ) (state : σ) (dependencies : Dependencies) (path : String)
    (pieces : List String) (log : List Exchange) :
    ∃ exchanges, store.recorded.create (state, log) dependencies path pieces =
        ⟨((store.create state dependencies path pieces).state, log ++ exchanges),
          (store.create state dependencies path pieces).records,
          (store.create state dependencies path pieces).fault⟩ ∧
      ((store.create state dependencies path pieces).fault = none ∧ exchanges = whole path pieces ∨
        ∃ fault raised, store.BreaksOff path pieces exchanges fault raised ∧
          (store.create state dependencies path pieces).fault = some raised) := by
  cases henter : store.enter state dependencies path with
  | error ended =>
    obtain ⟨after, fault⟩ := ended
    have hrecorded : store.recorded.enter (state, log) dependencies path =
        .error ((after, log ++ [⟨.enter path, some fault⟩]), fault) := by
      simp only [recorded, henter]
    rw [create_of_refused henter, create_of_refused hrecorded]
    exact ⟨_, rfl, Or.inr ⟨fault, fault, .entering fault, rfl⟩⟩
  | ok block =>
    have hrecorded : store.recorded.enter (state, log) dependencies path =
        .ok (block, log ++ [⟨.enter path, none⟩]) := by simp only [recorded, henter]
    obtain ⟨exchanges, hrecords, hwrites⟩ :=
      recorded_writeEach pieces block (log ++ [⟨.enter path, none⟩])
    rcases hblock : store.writeEach block pieces with ⟨last, _ | fault⟩
    · rw [hblock] at hrecords hwrites
      rw [create_of_written henter (by rw [hblock]), create_of_written hrecorded (by rw [hwrites]),
        hwrites, hblock, recorded_leave]
      obtain rfl := hrecords.eq_map
      refine ⟨written path pieces ++ [⟨.leave, (store.leave last).fault⟩], ?_, ?_⟩
      · simp [written]
      · cases hleave : (store.leave last).fault with
        | none => exact Or.inl ⟨rfl, rfl⟩
        | some fault => exact Or.inr ⟨fault, fault, .leaving fault, rfl⟩
    · rw [hblock] at hrecords hwrites
      rw [create_of_broken henter (congrArg Prod.snd hblock),
        create_of_broken hrecorded (congrArg Prod.snd hwrites), hwrites, hblock, recorded_abandon]
      obtain ⟨front, piece, rest, hsplit, rfl⟩ := hrecords.exists_split
      refine ⟨_, ?_, Or.inr ⟨fault, _, .writing hsplit fault last, rfl⟩⟩
      simp [written]

end Create

end StreamStore

namespace MemoryStore

/-- In memory every piece can be written. -/
theorem writeEach_streams (block : Block) (pieces : List String) :
    streams.writeEach block pieces =
      ({ block with text := block.text ++ String.join pieces }, none) :=
  streams.writeEach_of_append (fun text : String => { block with text }) (fun _ _ => rfl) block.text pieces

/-- An artifact that is written to a stream is kept. -/
theorem create_streams (store : MemoryStore) (dependencies : Dependencies) (path : String)
    (pieces : List String) : streams.create store dependencies path pieces =
      ⟨store.insert dependencies path pieces, [], none⟩ := by
  rw [StreamStore.create_of_written (rfl : streams.enter store dependencies path = .ok _)
    (congrArg Prod.snd (writeEach_streams _ pieces)), writeEach_streams]
  simp [streams, insert, String.join_cons]

/-- The store in memory is the one that hands out streams. -/
theorem artifactStore_streams : streams.artifactStore = artifactStore := by
  rw [StreamStore.artifactStore, artifactStore]
  congr
  funext store dependencies path pieces
  exact create_streams store dependencies path pieces

/-- The store in memory is strict about the paths that it has dependencies for. -/
theorem isStrict_streams :
    streams.IsStrict fun store path => path ∈ Keyed.keys store.dependencies where
  kept state dependencies path pieces other hfault := by
    rw [create_streams] at hfault
    exact absurd rfl hfault
  added state dependencies path pieces other _ hother := by
    rw [create_streams] at hother
    exact Keyed.mem_keys_put.mp hother
  raises _ _ := rfl

end MemoryStore

namespace FolderStore

/-- Every piece can be written to a draft that is open. -/
theorem writeEach_streams (block : Block) (pieces : List String) :
    streams.writeEach block pieces =
      ({ block with text := block.text ++ String.join pieces }, none) :=
  streams.writeEach_of_append (fun text : String => { block with text }) (fun _ _ => rfl) block.text pieces

section Enter

variable {store : FolderStore} {dependencies : Dependencies} {path : String} {target : Path}
  {tree : Tree}

/-- The block of an artifact is entered once its draft is open. -/
theorem enter_streams {place : Place} (htarget : store.target path = .ok target)
    (hraise : store.tree.raiseFolders target.parent = (tree, none))
    (hopen : tree.openPlace (draft target) = .ok place) :
    streams.enter store dependencies path =
      .ok ⟨{ store with tree := tree }, dependencies, path, target, place, "", hopen⟩ := by
  simp only [streams, htarget, hraise]
  split
  · rename_i hother
    cases hopen.symm.trans hother
  · rename_i hother
    cases hopen.symm.trans hother
    rfl

/-- The block of an artifact is refused when its draft cannot be opened. -/
theorem enter_streams_of_error {fault : Disk.Fault} (htarget : store.target path = .ok target)
    (hraise : store.tree.raiseFolders target.parent = (tree, none))
    (hopen : tree.openPlace (draft target) = .error fault) :
    streams.enter store dependencies path =
      .error ({ store with tree := (discard tree (draft target) (.disk fault)).1 },
        (discard tree (draft target) (.disk fault)).2) := by
  simp only [streams, htarget, hraise]
  split
  · rename_i hother
    cases hopen.symm.trans hother
    rfl
  · rename_i hother
    cases hopen.symm.trans hother

end Enter

/-- An artifact that is written to a stream is created by a call whose block does not fail. -/
theorem create_streams (store : FolderStore) (dependencies : Dependencies) (path : String)
    (pieces : List String) : streams.create store dependencies path pieces =
      store.answer ⟨dependencies, path, pieces, none⟩ := by
  rw [answer]
  cases htarget : store.target path with
  | error fault =>
    rw [create, htarget]
    exact StreamStore.create_of_refused (by simp only [streams, htarget])
  | ok target =>
    rcases hraise : store.tree.raiseFolders target.parent with ⟨tree, _ | fault⟩
    · simp only [create, htarget, hraise]
      cases hopen : tree.openPlace (draft target) with
      | error fault =>
        have hwrite : tree.write (draft target) (String.join pieces).toUTF8 = .error fault := by
          rw [Tree.write, hopen]
          rfl
        rw [StreamStore.create_of_refused (enter_streams_of_error htarget hraise hopen)]
        simp only [replace, hwrite]
      | ok place =>
        have hwrite : tree.write (draft target) (String.join pieces).toUTF8 =
            .ok (tree.set place (.file (String.join pieces).toUTF8)) := by
          rw [Tree.write, hopen]
          rfl
        rw [StreamStore.create_of_written (enter_streams htarget hraise hopen)
          (congrArg Prod.snd (writeEach_streams _ pieces)), writeEach_streams]
        simp only [streams, Block.tree, String.empty_append, replace, hwrite]
        cases (tree.set place (.file (String.join pieces).toUTF8)).rename (draft target) target with
        | error fault => rfl
        | ok after => rfl
    · simp only [create, htarget, hraise]
      exact StreamStore.create_of_refused (by simp only [streams, htarget, hraise])

/-- The store in a folder is the one that hands out streams. -/
theorem artifactStore_streams : streams.artifactStore = artifactStore := by
  rw [StreamStore.artifactStore, artifactStore]
  congr
  funext store dependencies path pieces
  exact create_streams store dependencies path pieces

/-- A block that is abandoned was ended by the fault that it raises: the draft is there to be cleared
away. -/
theorem abandon_streams (block : Block) (fault : Fault) :
    streams.abandon block fault =
      ({ block.store with tree := block.tree.remove block.place }, fault) := by
  have hplace : block.store.tree.isFolderAt block.place = false := by
    rcases (Tree.openPlace_eq_ok block.isOpen).2 with ⟨_, hentry⟩ | ⟨hentry, -⟩ <;>
      simp [Tree.isFolderAt, hentry]
  have hdiscard : discard block.tree (draft block.target) fault =
      (block.tree.remove block.place, fault) :=
    discard_of_lookup fault (Tree.lookup_of_write block.isOpen hplace)
  simp only [streams, hdiscard]

/-- The store in a folder is strict about the paths in its index. -/
theorem isStrict_streams : streams.IsStrict fun store path => path ∈ Keyed.keys store.entries where
  kept store dependencies path pieces other hfault hother := by
    rw [create_streams] at hfault hother
    rwa [(answer_of_fault_ne_none hfault).2] at hother
  added store dependencies path pieces other hfault hother := by
    rw [create_streams] at hfault hother
    rw [(answer_of_fault_eq_none hfault).2.2] at hother
    exact Keyed.mem_keys_put.mp hother
  raises block fault := congrArg Prod.snd (abandon_streams block fault)

end FolderStore

end ServiceManifest
