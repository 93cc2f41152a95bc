import ServiceManifest.Proofs.Disk.Raised
import ServiceManifest.Proofs.Store.Manifests

/-!
# Manifests written below an empty root

A folder of manifests that is there, with no folder in it, takes every manifest whose draft has a path
that is not too long, and stays such a folder. Below a root with nothing in it the first manifest
makes the folder, so an emission there fails only if the folder cannot be made or a path is too long.
-/

namespace ServiceManifest

open Disk

/-- A name that a file can have, and a draft of the file too. -/
structure Path.IsFileName (name : String) : Prop where
  isName : Path.IsName name
  plain : '\x00' ∉ name.toList
  short : name.utf8ByteSize ≤ 251

instance (name : String) : Decidable (Path.IsFileName name) :=
  decidable_of_iff (Path.IsName name ∧ '\x00' ∉ name.toList ∧ name.utf8ByteSize ≤ 251)
    ⟨fun h => ⟨h.1, h.2.1, h.2.2⟩, fun h => ⟨h.isName, h.plain, h.short⟩⟩

/-- The name of a draft is not too long. -/
theorem Path.IsFileName.draft_short {name : String} (h : Path.IsFileName name) :
    (name ++ ".tmp").utf8ByteSize ≤ nameLimit := by
  rw [String.utf8ByteSize_append]
  exact Nat.add_le_add_right h.short 4

/-- The name of a draft has no NUL. -/
theorem Path.IsFileName.draft_plain {name : String} (h : Path.IsFileName name) :
    '\x00' ∉ (name ++ ".tmp").toList := by
  rw [String.toList_append, List.mem_append, not_or]
  exact ⟨h.plain, by decide⟩

namespace FolderStore

/-- The folder in which a store keeps manifests. -/
def manifests (store : FolderStore) : Path := ⟨store.root.anchor, Manifest.place store.root⟩

/-- The path of the draft of the manifest of an interface. -/
def manifestDraft (store : FolderStore) (interface : String) : Path :=
  ⟨store.root.anchor, Manifest.place store.root ++ [interface ++ ".tmp"]⟩

/-- A store whose root is an absolute path that a disk can have. -/
structure IsRooted (store : FolderStore) : Prop where
  anchored : store.root.anchor ≠ ""
  plain : ".." ∉ store.root.parts
  hasNul : store.root.hasNul = false

/-- A store whose folder of manifests is there and has no folder in it. -/
structure IsReady (store : FolderStore) : Prop extends store.IsRooted where
  folder : store.tree.lookup store.manifests = .ok (Manifest.place store.root, .folder)
  flat : ∀ rest ≠ [], store.tree.isFolderAt (Manifest.place store.root ++ rest) = false

section Create

variable {store : FolderStore} {interface : String} {dependencies : Dependencies}
  {pieces : List String}

/-- The folder of manifests has no part `..`. -/
theorem IsRooted.not_mem_place (h : store.IsRooted) : ".." ∉ Manifest.place store.root := by
  rw [Manifest.place, List.mem_append, not_or]
  exact ⟨h.plain, by decide⟩

/-- A manifest lies in the folder of manifests. -/
theorem parent_manifest (store : FolderStore) (interface : String) :
    (⟨store.root.anchor, Manifest.place store.root ++ [interface]⟩ : Path).parent =
      store.manifests := by
  rw [Path.parent, manifests, List.dropLast_concat]

/-- The manifest of an interface is written to the folder of manifests. -/
theorem IsRooted.target_path (h : store.IsRooted) (hname : Path.IsFileName interface) :
    store.target (Manifest.path interface) =
      .ok ⟨store.root.anchor, Manifest.place store.root ++ [interface]⟩ := by
  have habsolute : store.root.absolute store.tree.here = store.root :=
    Path.absolute_of_anchored h.anchored h.plain
  have hplace := Manifest.absolute_join_path hname.isName store.root store.tree.here
  rw [habsolute] at hplace
  have hnul : (store.root.join (Path.ofString (Manifest.path interface))).hasNul = false := by
    have hroot := h.hasNul
    have hplain := hname.plain
    rw [Manifest.ofString_path hname.isName, Path.join, if_pos rfl]
    simp only [Path.hasNul, List.any_append, Bool.or_eq_false_iff] at hroot ⊢
    refine ⟨hroot, ?_⟩
    simp [hplain]
  have hwithin : (⟨store.root.anchor, Manifest.place store.root ++ [interface]⟩ : Path).isWithin
      store.root = true := by
    simp [Path.isWithin, Manifest.place]
  unfold target
  simp only [hplace, hnul, hwithin]
  rfl

/-- Without the folder of manifests no manifest is created. -/
theorem IsRooted.create_ne_of_raise (h : store.IsRooted) (hname : Path.IsFileName interface)
    (hraise : (store.tree.raiseFolders store.manifests).2 ≠ none) :
    (store.create dependencies (Manifest.path interface) pieces none).fault ≠ none := by
  unfold create
  simp only [h.target_path hname, parent_manifest]
  split
  · nofun
  · rename_i hmade
    rw [hmade] at hraise
    exact absurd rfl hraise

/-- Once the folder of manifests was made, creating a manifest does not make it again. -/
theorem IsRooted.create_eq (h : store.IsRooted) (hname : Path.IsFileName interface) {raised : Tree}
    (hraise : store.tree.raiseFolders store.manifests = (raised, none)) :
    store.create dependencies (Manifest.path interface) pieces none =
      { store with tree := raised }.create dependencies (Manifest.path interface) pieces none := by
  have hreaches : store.tree.Reaches (store.tree.raiseFolders store.manifests).1 :=
    .raiseFolders store.manifests
  rw [hraise] at hreaches
  have hparts : store.manifests.parts ≠ [] := by simp [manifests, Manifest.place]
  have hagain : raised.raiseFolders store.manifests = (raised, none) :=
    Tree.raiseFolders_of_lookup hparts
      (Tree.lookup_of_raiseFolders h.anchored h.not_mem_place hparts hraise)
  have hrooted : IsRooted { store with tree := raised } := ⟨h.anchored, h.plain, h.hasNul⟩
  have htarget : target { store with tree := raised } (Manifest.path interface) =
      .ok ⟨store.root.anchor, Manifest.place store.root ++ [interface]⟩ :=
    hrooted.target_path hname
  unfold create
  simp only [h.target_path hname, htarget, parent_manifest, hraise, hagain]

/-- A path is written no longer than the one with more behind its last name. -/
theorem utf8ByteSize_inside_le {anchor : String} (hanchor : anchor ≠ "") (folder : Place)
    (name ending : String) : (Path.mk anchor (folder ++ [name])).toString.utf8ByteSize ≤
      (Path.mk anchor (folder ++ [name ++ ending])).toString.utf8ByteSize := by
  have hwritten (last : String) : (Path.mk anchor (folder ++ [last])).toString =
      anchor ++ "/".intercalate (folder ++ [last]) := by
    simp [Path.toString, hanchor]
  rw [hwritten, hwritten, String.utf8ByteSize_append, String.utf8ByteSize_append]
  rcases eq_or_ne folder [] with rfl | hfolder
  · simp
  · simp only [String.intercalate_append_of_ne_nil hfolder (List.cons_ne_nil _ _),
      String.intercalate_singleton, String.utf8ByteSize_append]
    omega

/-- A tree in which a file of a folder was replaced through its draft. -/
def replaced (tree : Tree) (folder : Place) (name : String) (bytes : ByteArray) : Tree :=
  ((tree.set (folder ++ [name ++ ".tmp"]) (.file bytes)).remove (folder ++ [name ++ ".tmp"])).set
    (folder ++ [name]) (.file bytes)

/-- What is at the places after a file was replaced: the file, no draft, and else what was there. -/
theorem entry?_replaced (tree : Tree) (folder : Place) (name : String) (bytes : ByteArray)
    (place : Place) : Tree.entry? (replaced tree folder name bytes) place =
      if place = folder ++ [name] then some (.file bytes)
      else if place = folder ++ [name ++ ".tmp"] then none else tree.entry? place := by
  rw [replaced, Tree.entry?_set (by simp), Tree.entry?_remove (by simp),
    Tree.entry?_set (by simp)]
  split_ifs <;> rfl

/-- Replacing a file that is no folder keeps the folders. -/
theorem isFolderAt_replaced {tree : Tree} {folder : Place} {name : String} (bytes : ByteArray)
    (hplace : tree.isFolderAt (folder ++ [name]) = false)
    (hdraft : tree.isFolderAt (folder ++ [name ++ ".tmp"]) = false) (place : Place) :
    (replaced tree folder name bytes).isFolderAt place = tree.isFolderAt place := by
  rw [Tree.isFolderAt, entry?_replaced]
  split_ifs with htarget hother
  · rw [htarget, hplace]
  · rw [hother, hdraft]
  · rfl

section Replace

variable {tree : Tree} {anchor : String} {folder : Place} {name : String}

/-- The draft of a file lies beside it. -/
theorem draft_inside (anchor : String) (folder : Place) (name : String) :
    draft ⟨anchor, folder ++ [name]⟩ = ⟨anchor, folder ++ [name ++ ".tmp"]⟩ := by
  simp [draft, Path.withName, Path.name]

/-- In a folder a file is replaced through its draft, if the path of that is not too long. -/
theorem replace_inside (hanchor : anchor ≠ "") (hname : Path.IsFileName name)
    (hfolder : tree.lookup ⟨anchor, folder⟩ = .ok (folder, .folder))
    (hplace : tree.isFolderAt (folder ++ [name]) = false)
    (hdraft : tree.isFolderAt (folder ++ [name ++ ".tmp"]) = false)
    (hlength : (Path.mk anchor (folder ++ [name ++ ".tmp"])).toString.utf8ByteSize ≤ pathLimit)
    (text : String) : replace tree ⟨anchor, folder ++ [name]⟩ text none =
      (replaced tree folder name text.toUTF8, none) := by
  have hentry := (Tree.lookup_eq_ok_iff.mp hfolder).2
  have hlocateDraft : tree.locate ⟨anchor, folder ++ [name ++ ".tmp"]⟩ =
      .ok (folder ++ [name ++ ".tmp"]) := by
    rw [Tree.locate_inside hanchor hfolder (Path.append_draftEnding_ne name) hname.draft_plain
      hname.draft_short, if_pos hlength]
  have hlocate : tree.locate ⟨anchor, folder ++ [name]⟩ = .ok (folder ++ [name]) := by
    rw [Tree.locate_inside hanchor hfolder hname.isName.2.2.1 hname.plain
      (hname.short.trans (by decide)),
      if_pos ((utf8ByteSize_inside_le hanchor folder name ".tmp").trans hlength)]
  have hopen := Tree.openPlace_inside hlocateDraft hentry hdraft
  -- The draft that was written is found, and the target leads where it led before.
  have hfound := @Tree.lookup_of_write _ _ text.toUTF8 _ hopen hdraft
  have hkept (place : Place) (h : tree.entry? place = some .folder) :
      Tree.entry? (tree.set (folder ++ [name ++ ".tmp"]) (.file text.toUTF8)) place = some .folder :=
    Tree.folder_of_set hdraft _ h
  have htarget : (tree.set (folder ++ [name ++ ".tmp"]) (.file text.toUTF8)).locate
      ⟨anchor, folder ++ [name]⟩ = .ok (folder ++ [name]) :=
    Tree.locate_mono (show (tree.set _ _).here = tree.here from rfl) hkept hlocate
  have hfree : (tree.set (folder ++ [name ++ ".tmp"]) (.file text.toUTF8)).isFolderAt
      (folder ++ [name]) = false := by
    unfold Tree.isFolderAt at hplace ⊢
    rw [Tree.entry?_set (by simp), if_neg (by simpa using (lt_append_draftEnding name).ne)]
    exact hplace
  unfold replace Tree.write Tree.rename
  simp only [draft_inside, hopen, Except.map, hfound, htarget, hfree]
  rfl

/-- A draft whose path is too long is not written, so its file is not replaced. -/
theorem replace_inside_ne (hanchor : anchor ≠ "") (hname : Path.IsFileName name)
    (hfolder : tree.lookup ⟨anchor, folder⟩ = .ok (folder, .folder))
    (hlength : ¬(Path.mk anchor (folder ++ [name ++ ".tmp"])).toString.utf8ByteSize ≤ pathLimit)
    (text : String) : (replace tree ⟨anchor, folder ++ [name]⟩ text none).2 ≠ none := by
  have hlocateDraft : tree.locate ⟨anchor, folder ++ [name ++ ".tmp"]⟩ = .error .nameTooLong := by
    rw [Tree.locate_inside hanchor hfolder (Path.append_draftEnding_ne name) hname.draft_plain
      hname.draft_short, if_neg hlength]
  unfold replace Tree.write Tree.openPlace
  simp only [draft_inside, hlocateDraft, Except.map]
  nofun

end Replace

/-- A folder of manifests stays one when a manifest in it is replaced. -/
theorem IsReady.replaced (h : store.IsReady) (entries : Keyed IndexEntry) (bytes : ByteArray) :
    IsReady ⟨store.root, entries,
      replaced store.tree (Manifest.place store.root) interface bytes⟩ := by
  have hsame := @isFolderAt_replaced _ (Manifest.place store.root) interface bytes
    (h.flat _ (List.cons_ne_nil _ _)) (h.flat _ (List.cons_ne_nil _ _))
  have hkept (place : Place) (hplace : store.tree.entry? place = some .folder) :
      Tree.entry? (FolderStore.replaced store.tree (Manifest.place store.root) interface bytes) place =
        some .folder := by
    rw [← Tree.isFolderAt_iff, hsame, Tree.isFolderAt_iff]
    exact hplace
  obtain ⟨hlocate, hentry⟩ := Tree.lookup_eq_ok_iff.mp h.folder
  have hfound : (FolderStore.replaced store.tree (Manifest.place store.root) interface bytes).locate
      store.manifests = .ok (Manifest.place store.root) :=
    Tree.locate_mono (show (FolderStore.replaced _ _ _ _).here = store.tree.here from rfl) hkept
      hlocate
  exact ⟨⟨h.anchored, h.plain, h.hasNul⟩, Tree.lookup_eq_ok_iff.mpr ⟨hfound, hkept _ hentry⟩,
    fun rest hrest => (hsame _).trans (h.flat rest hrest)⟩

/-- A folder of manifests takes a manifest exactly if the path of its draft is not too long, and then
stays one. -/
theorem IsReady.create_spec (h : store.IsReady) (hname : Path.IsFileName interface) :
    ((store.create dependencies (Manifest.path interface) pieces none).fault = none ↔
        (store.manifestDraft interface).toString.utf8ByteSize ≤ pathLimit) ∧
      ((store.create dependencies (Manifest.path interface) pieces none).fault = none →
        (store.create dependencies (Manifest.path interface) pieces none).state.IsReady) := by
  have hraise : store.tree.raiseFolders store.manifests = (store.tree, none) :=
    Tree.raiseFolders_of_lookup (by simp [manifests, Manifest.place]) h.folder
  unfold create
  simp only [h.target_path hname, parent_manifest, hraise]
  by_cases hlength : (store.manifestDraft interface).toString.utf8ByteSize ≤ pathLimit
  · rw [replace_inside h.anchored hname h.folder (h.flat _ (List.cons_ne_nil _ _))
      (h.flat _ (List.cons_ne_nil _ _)) hlength]
    exact ⟨iff_of_true rfl hlength, fun _ => h.replaced _ _⟩
  · have hreplace := replace_inside_ne h.anchored hname h.folder hlength (String.join pieces)
    split
    · exact ⟨iff_of_false (Option.some_ne_none _) hlength,
        fun hnone => absurd hnone (Option.some_ne_none _)⟩
    · rename_i hnone
      rw [hnone] at hreplace
      exact absurd rfl hreplace

end Create

section Emit

variable {store last : FolderStore} {artifacts : List Artifact}

/-- A folder of manifests takes manifests exactly if no path of a draft is too long, and then stays
one. -/
theorem IsReady.creates_iff (h : store.IsReady)
    (hpaths : ∀ artifact ∈ artifacts, artifact.path = Manifest.path artifact.interface)
    (hnames : ∀ artifact ∈ artifacts, Path.IsFileName artifact.interface) :
    ((∃ last, Creates artifactStore store artifacts last) ↔ ∀ artifact ∈ artifacts,
        (store.manifestDraft artifact.interface).toString.utf8ByteSize ≤ pathLimit) ∧
      ∀ last, Creates artifactStore store artifacts last → last.IsReady := by
  induction artifacts generalizing store with
  | nil =>
    refine ⟨iff_of_true ⟨store, .nil store⟩ nofun, fun last hcreates => ?_⟩
    cases hcreates
    exact h
  | cons artifact rest ih =>
    have hfirst := @create_spec store artifact.interface artifact.dependencies artifact.pieces h
      (hnames artifact List.mem_cons_self)
    rw [← hpaths artifact List.mem_cons_self] at hfirst
    have hrest := fun hnone => ih (hfirst.2 hnone)
      (fun other hother => hpaths other (List.mem_cons_of_mem _ hother))
      (fun other hother => hnames other (List.mem_cons_of_mem _ hother))
    have hdraft (interface : String) :
        (store.create artifact.dependencies artifact.path artifact.pieces none).state.manifestDraft
          interface = store.manifestDraft interface := by
      rw [manifestDraft, create_root, manifestDraft]
    simp only [hdraft] at hrest
    rw [List.forall_mem_cons]
    refine ⟨⟨?_, fun hlengths => ?_⟩, fun last hcreates => ?_⟩
    · rintro ⟨last, _ | ⟨hcreate, hcreates⟩⟩
      exact ⟨hfirst.1.mp hcreate, (hrest hcreate).1.mp ⟨last, hcreates⟩⟩
    · have hcreate := hfirst.1.mpr hlengths.1
      obtain ⟨last, hcreates⟩ := (hrest hcreate).1.mpr hlengths.2
      exact ⟨last, .cons hcreate hcreates⟩
    · cases hcreates with
      | cons hcreate hcreates => exact (hrest hcreate).2 last hcreates

/-- A store with nothing below its root. -/
structure IsEmpty (store : FolderStore) : Prop extends store.IsRooted where
  below : ∀ rest ≠ [], store.tree.entry? (store.root.parts ++ rest) = none

/-- Whether a disk takes the manifest of an interface: the folder of manifests can be made, and the
path of the draft is not too long. -/
def Takes (store : FolderStore) (interface : String) : Prop :=
  (store.tree.raiseFolders store.manifests).2 = none ∧
    (store.manifestDraft interface).toString.utf8ByteSize ≤ pathLimit

instance (store : FolderStore) (interface : String) : Decidable (store.Takes interface) :=
  inferInstanceAs (Decidable (_ ∧ _))

/-- A folder of manifests that was made below a root with nothing in it is there, with nothing in
it. -/
theorem IsEmpty.isReady (h : store.IsEmpty) {raised : Tree}
    (hraise : store.tree.raiseFolders store.manifests = (raised, none)) :
    IsReady { store with tree := raised } := by
  have hparts : store.manifests.parts ≠ [] := by simp [manifests, Manifest.place]
  refine ⟨⟨h.anchored, h.plain, h.hasNul⟩,
    Tree.lookup_of_raiseFolders h.anchored h.not_mem_place hparts hraise, fun rest hrest => ?_⟩
  have hinside : ¬Manifest.place store.root ++ rest <+: store.manifests.parts := by
    intro hprefix
    have hlength := hprefix.length_le
    simp only [List.length_append, manifests] at hlength
    exact hrest (List.length_eq_zero_iff.mp (by omega))
  have hsame := @Tree.entry?_raiseFolders store.tree store.manifests h.anchored h.not_mem_place _
    hinside
  rw [hraise, Manifest.place, List.append_assoc, h.below _ (by simp)] at hsame
  unfold Tree.isFolderAt
  simp only [Manifest.place, List.append_assoc]
  rw [hsame]

/-- Below a root with nothing in it manifests are created exactly if the disk takes each of them, and
then there is no folder in the folder of manifests. -/
theorem IsEmpty.creates_iff (h : store.IsEmpty)
    (hpaths : ∀ artifact ∈ artifacts, artifact.path = Manifest.path artifact.interface)
    (hnames : ∀ artifact ∈ artifacts, Path.IsFileName artifact.interface) :
    ((∃ last, Creates artifactStore store artifacts last) ↔
        ∀ artifact ∈ artifacts, store.Takes artifact.interface) ∧
      ∀ last, Creates artifactStore store artifacts last → ∀ rest ≠ [],
        last.tree.isFolderAt (Manifest.place store.root ++ rest) = false := by
  cases artifacts with
  | nil =>
    refine ⟨iff_of_true ⟨store, .nil store⟩ (List.forall_mem_nil _), fun last hcreates rest _ => ?_⟩
    cases hcreates
    have hnone := h.below (["META-INF", "services"] ++ rest) (by simp)
    rw [← List.append_assoc, ← Manifest.place] at hnone
    simp [Tree.isFolderAt, hnone]
  | cons artifact others =>
    have hname := hnames artifact List.mem_cons_self
    have hpath := hpaths artifact List.mem_cons_self
    rcases hraise : store.tree.raiseFolders store.manifests with ⟨raised, _ | fault⟩
    · -- The store with the folder that was made creates the same.
      have hready := h.isReady hraise
      have hsame : Creates artifactStore store (artifact :: others) =
          Creates artifactStore { store with tree := raised } (artifact :: others) := by
        have hcreate := @IsRooted.create_eq store artifact.interface artifact.dependencies
          artifact.pieces h.toIsRooted hname raised hraise
        rw [← hpath] at hcreate
        funext last
        rw [creates_cons_iff, creates_cons_iff]
        simp only [artifactStore, hcreate]
      obtain ⟨hiff, hlast⟩ := hready.creates_iff hpaths hnames
      simp only [Takes, hraise, true_and, hsame]
      refine ⟨hiff, fun last hcreates => ?_⟩
      have hflat := (hlast last hcreates).flat
      rwa [(wrote_of_creates hcreates).root] at hflat
    · have hraised : (store.tree.raiseFolders store.manifests).2 ≠ none := by
        rw [hraise]
        exact Option.some_ne_none fault
      have hfault := @IsRooted.create_ne_of_raise store artifact.interface artifact.dependencies
        artifact.pieces h.toIsRooted hname hraised
      rw [← hpath] at hfault
      have hnever (last : FolderStore) : ¬Creates artifactStore store (artifact :: others) last :=
        fun hcreates => hfault ((creates_cons_iff artifactStore).mp hcreates).1
      exact ⟨iff_of_false (not_exists.mpr hnever)
        fun htakes => hraised (htakes artifact List.mem_cons_self).1,
        fun last hcreates => absurd hcreates (hnever last)⟩

end Emit

end FolderStore

end ServiceManifest
