import Mathlib.Data.String.Basic
import ServiceManifest.Proofs.Name
import ServiceManifest.Proofs.Round.Folder
import ServiceManifest.Proofs.Store.Obsolete

/-!
# The folder of manifests after a build

The manifests of a round lie side by side in one folder, each prepared in a draft beside it. A name
that is a draft of another comes after it, so in ascending order no draft destroys a manifest that
was written. What an earlier build left and this one did not write again is removed, so the folder
then holds the manifests of the round and nothing else.
-/

namespace ServiceManifest

open Disk

/-- A name that a file can have: a part of a path that counts. -/
def Path.IsName (name : String) : Prop :=
  name ≠ "" ∧ name ≠ "." ∧ name ≠ ".." ∧ '/' ∉ name.toList

instance (name : String) : Decidable (Path.IsName name) := inferInstanceAs (Decidable (_ ∧ _))

/-- A text comes before itself with more behind it. -/
theorem lt_append_draftEnding (name : String) : name < name ++ ".tmp" := by
  rw [String.lt_iff_toList_lt, String.toList_append]
  have hlex := List.Lex.append_left (· < ·) (List.Lex.nil (a := '.') (l := ['t', 'm', 'p'])
    (r := fun a b : Char => a < b)) name.toList
  simpa using hlex

/-- Names with slashes between them are the parts of a relative path. -/
theorem Path.ofString_intercalate {parts : List String} (hne : parts ≠ [])
    (hparts : ∀ part ∈ parts, Path.IsName part) :
    Path.ofString ("/".intercalate parts) = ⟨"", parts⟩ := by
  have hsplit : nameParts '/' ("/".intercalate parts) = parts :=
    nameParts_intercalate_singleton hne fun part hpart => (hparts part hpart).2.2.2
  have hfilter : parts.filter (fun part => part ≠ "" && part ≠ ".") = parts :=
    List.filter_eq_self.mpr fun part hpart => by
      simpa using ⟨(hparts part hpart).1, (hparts part hpart).2.1⟩
  have hanchor : Path.anchorOf ("/".intercalate parts).toList = "" := by
    obtain ⟨first, rest, rfl⟩ := List.exists_cons_of_ne_nil hne
    obtain ⟨hempty, -, -, hslash⟩ := hparts first List.mem_cons_self
    obtain ⟨c, cs, hchars⟩ := List.exists_cons_of_ne_nil (String.toList_eq_nil_iff.not.mpr hempty)
    have hfront : ∃ more, ("/".intercalate (first :: rest)).toList = c :: more := by
      rcases eq_or_ne rest [] with rfl | hmore
      · exact ⟨cs, by rw [String.intercalate_singleton, hchars]⟩
      · rw [String.intercalate_cons_of_ne_nil hmore, String.toList_append, String.toList_append, hchars]
        exact ⟨_, rfl⟩
    obtain ⟨more, hmore⟩ := hfront
    have hc : c ≠ '/' := fun heq => hslash (by rw [hchars, heq]; exact List.mem_cons_self)
    rw [hmore]
    unfold Path.anchorOf
    split <;> simp_all
  rw [Path.ofString, hanchor]
  unfold Path.partsOf
  rw [← nameParts, hsplit, hfilter]

namespace Manifest

variable {interface : String}

/-- The parts of the path of a manifest. -/
theorem ofString_path (h : Path.IsName interface) :
    Path.ofString (path interface) = ⟨"", ["META-INF", "services", interface]⟩ := by
  have hpath : path interface = "/".intercalate ["META-INF", "services", interface] := by
    simp [path, folder, String.intercalate_cons_cons, ← String.append_assoc]
  rw [hpath]
  refine Path.ofString_intercalate (List.cons_ne_nil _ _) ?_
  simp only [List.forall_mem_cons, List.not_mem_nil, false_implies, implies_true, and_true]
  exact ⟨by decide, by decide, h⟩

/-- Where the manifests below an output root lie. -/
def place (root : Path) : Place := root.parts ++ ["META-INF", "services"]

/-- The absolute path of a manifest below an output root. -/
theorem absolute_join_path (h : Path.IsName interface) (output : Path) (here : Place) :
    (output.join (Path.ofString (path interface))).absolute here =
      ⟨(output.absolute here).anchor, place (output.absolute here) ++ [interface]⟩ := by
  rw [ofString_path h, Path.absolute_join here rfl (by simp [Ne.symm h.2.2.1]), Path.join, if_pos rfl]
  simp [place]

/-- A manifest lies in the folder of manifests under the name of its interface. -/
theorem placeIn_path (h : Path.IsName interface) (output : Path) (here other : Place) :
    FolderStore.placeIn (output.absolute here) other (path interface) =
      place (output.absolute here) ++ [interface] := by
  rw [FolderStore.placeIn, absolute_join_path h, Path.absolute_absolute]

/-- The draft of a manifest lies beside it. -/
theorem draftOf_place (folder : Place) (interface : String) :
    Path.draftOf (folder ++ [interface]) = folder ++ [interface ++ ".tmp"] := by
  simp [Path.draftOf]

end Manifest

/-- Manifests of different interfaces by ascending interface, as a round makes them. -/
structure AreManifests (artifacts : List Artifact) : Prop where
  ascending : (artifacts.map (·.interface)).Pairwise (· < ·)
  path : ∀ artifact ∈ artifacts, artifact.path = Manifest.path artifact.interface

namespace AreManifests

variable {artifacts : List Artifact}

/-- Manifests without the first are manifests, and the first comes before all of them. -/
theorem cons {artifact : Artifact} {rest : List Artifact} (h : AreManifests (artifact :: rest)) :
    AreManifests rest ∧ ∀ other ∈ rest, artifact.interface < other.interface := by
  have hpairwise := List.pairwise_cons.mp (List.map_cons ▸ h.ascending)
  exact ⟨⟨hpairwise.2, fun other hother => h.path other (List.mem_cons_of_mem _ hother)⟩,
    fun other hother => hpairwise.1 _ (List.mem_map.mpr ⟨other, hother, rfl⟩)⟩

/-- No two manifests have one path. -/
theorem nodup_path (h : AreManifests artifacts) : (artifacts.map (·.path)).Nodup := by
  have hpaths : artifacts.map (·.path) = (artifacts.map (·.interface)).map Manifest.path := by
    rw [List.map_map]
    exact List.map_congr_left h.path
  rw [hpaths]
  refine List.Nodup.map (fun _ _ heq => Manifest.path_injective heq) ?_
  exact h.ascending.imp fun hlt heq => absurd (heq ▸ hlt) (lt_irrefl _)

end AreManifests

/-- The contents of the manifest of an interface among manifests. -/
def contentOf (artifacts : List Artifact) (interface : String) : Option ByteArray :=
  (artifacts.find? (·.interface = interface)).map fun artifact =>
    (Manifest.render artifact.implementers).toUTF8

/-- Files that all lie directly in a folder, seen from it. -/
def flatFiles (content : String → Option ByteArray) : Files
  | [name] => content name
  | _ => none

/-- Below a folder are the manifests, each under the name of its interface, and no other files. -/
def HoldsManifests (files : Files) (folder : Place) (artifacts : List Artifact) : Prop :=
  ∀ rest, files (folder ++ rest) = flatFiles (contentOf artifacts) rest

/-- The changes that writing manifests into a folder makes. -/
def manifestChanges (folder : Place) (artifacts : List Artifact) : List Change :=
  artifacts.flatMap fun artifact =>
    [(folder ++ [artifact.interface ++ ".tmp"], none),
      (folder ++ [artifact.interface], some (Manifest.render artifact.implementers).toUTF8)]

namespace FolderStore

/-- Manifests are created in the folder of manifests. -/
theorem creationsAt_eq {artifacts : List Artifact} (h : AreManifests artifacts)
    (hnames : ∀ artifact ∈ artifacts, Path.IsName artifact.interface) (output : Path)
    (here other : Place) :
    creationsAt (output.absolute here) other artifacts =
      manifestChanges (Manifest.place (output.absolute here)) artifacts := by
  unfold creationsAt manifestChanges
  refine List.flatMap_congr fun artifact hartifact => ?_
  rw [h.path artifact hartifact, Manifest.placeIn_path (hnames artifact hartifact), createdAt,
    Manifest.draftOf_place]

end FolderStore

section Changes

variable {files : Files} {folder : Place} {artifacts : List Artifact}

/-- What is changed are the manifests and their drafts. -/
theorem mem_manifestChanges {change : Change} :
    change ∈ manifestChanges folder artifacts ↔ ∃ artifact ∈ artifacts,
      change = (folder ++ [artifact.interface ++ ".tmp"], none) ∨
        change = (folder ++ [artifact.interface],
          some (Manifest.render artifact.implementers).toUTF8) := by
  simp [manifestChanges]

/-- A manifest holds its text after all are written: the drafts of later ones are others. -/
theorem after_manifestChanges_of_mem (h : AreManifests artifacts) {artifact : Artifact}
    (hartifact : artifact ∈ artifacts) :
    files.after (manifestChanges folder artifacts) (folder ++ [artifact.interface]) =
      some (Manifest.render artifact.implementers).toUTF8 := by
  induction artifacts generalizing files with
  | nil => cases hartifact
  | cons first rest ih =>
    obtain ⟨hrest, hfirst⟩ := h.cons
    rcases List.mem_cons.mp hartifact with rfl | hartifact
    · refine Files.after_of_last files [(folder ++ [artifact.interface ++ ".tmp"], none)] ?_
      intro hmem
      obtain ⟨change, hchange, hplace⟩ := List.mem_map.mp hmem
      obtain ⟨other, hother, rfl | rfl⟩ := mem_manifestChanges.mp hchange
      · have hdraft : other.interface ++ ".tmp" = artifact.interface := by simpa using hplace
        have hlt := (hfirst other hother).trans (lt_append_draftEnding other.interface)
        exact lt_irrefl _ (hdraft ▸ hlt)
      · have hsame : other.interface = artifact.interface := by simpa using hplace
        exact lt_irrefl _ (hsame ▸ hfirst other hother)
    · exact ih hrest hartifact

/-- Where no manifest is, writing manifests leaves a file as it was or removes it. -/
theorem after_manifestChanges_of_not_mem {place : Place}
    (hplace : ∀ artifact ∈ artifacts, place ≠ folder ++ [artifact.interface]) :
    files.after (manifestChanges folder artifacts) place = none ∨
      files.after (manifestChanges folder artifacts) place = files place := by
  refine Files.after_of_removals files fun change hchange hchanged => ?_
  obtain ⟨artifact, hartifact, rfl | rfl⟩ := mem_manifestChanges.mp hchange
  · rfl
  · exact absurd hchanged.symm (hplace artifact hartifact)

/-- The contents of a manifest among manifests. -/
theorem contentOf_of_mem (h : AreManifests artifacts) {artifact : Artifact}
    (hartifact : artifact ∈ artifacts) : contentOf artifacts artifact.interface =
      some (Manifest.render artifact.implementers).toUTF8 := by
  induction artifacts with
  | nil => cases hartifact
  | cons first rest ih =>
    obtain ⟨hrest, hfirst⟩ := h.cons
    rcases List.mem_cons.mp hartifact with rfl | hartifact
    · simp [contentOf]
    · have hne : first.interface ≠ artifact.interface := (hfirst artifact hartifact).ne
      have hcontent := ih hrest hartifact
      simpa [contentOf, hne] using hcontent

/-- Without a manifest of an interface there are no contents. -/
theorem contentOf_eq_none_iff {interface : String} :
    contentOf artifacts interface = none ↔ ∀ artifact ∈ artifacts, artifact.interface ≠ interface := by
  simp [contentOf]

end Changes

namespace FolderStore

section Cleared

variable {store written last : FolderStore} {artifacts : List Artifact} {paths : List String}
  {output : Path} {here : Place}

/-- The manifests that are written are new entries of the store. -/
theorem mem_keys_of_wrote (hentries : store.entries = []) (h : AreManifests artifacts)
    (hwrote : Wrote store artifacts written) {path : String} :
    path ∈ Keyed.keys written.entries ↔ ∃ artifact ∈ artifacts, artifact.path = path := by
  rw [hwrote.entries, hentries, registered_of_nodup h.nodup_path]
  simp [Keyed.keys]

/-- After a build every manifest holds its text: none of them is among those that are removed. -/
theorem file?_of_cleared (hroot : store.root = output.absolute here) (hentries : store.entries = [])
    (h : AreManifests artifacts) (hnames : ∀ artifact ∈ artifacts, Path.IsName artifact.interface)
    (hwrote : Wrote store artifacts written) (hcleared : Cleared written paths last)
    (hpaths : ∀ path ∈ paths, ∃ interface, path = Manifest.path interface ∧ Path.IsName interface)
    {artifact : Artifact} (hartifact : artifact ∈ artifacts) :
    last.tree.file? (Manifest.place (output.absolute here) ++ [artifact.interface]) =
      some (Manifest.render artifact.implementers).toUTF8 := by
  have hfiles := hwrote.files
  rw [hroot, creationsAt_eq h hnames] at hfiles
  have hkept := hcleared.kept
  rw [hwrote.root, hroot] at hkept
  rw [hkept, hfiles, after_manifestChanges_of_mem h hartifact]
  intro path hpath hobsolete hplace
  obtain ⟨interface, rfl, hname⟩ := hpaths path hpath
  rw [Manifest.placeIn_path hname] at hplace
  have hsame : artifact.interface = interface := by simpa using hplace
  exact hobsolete ((mem_keys_of_wrote hentries h hwrote).mpr
    ⟨artifact, hartifact, by rw [h.path artifact hartifact, hsame]⟩)

/-- After a build the folder holds its manifests and nothing else, if what was there before were
manifests of an earlier build and the obsolete ones of these are removed. -/
theorem holdsManifests_of_cleared (hroot : store.root = output.absolute here)
    (hentries : store.entries = []) (h : AreManifests artifacts)
    (hnames : ∀ artifact ∈ artifacts, Path.IsName artifact.interface)
    (hwrote : Wrote store artifacts written) (hcleared : Cleared written paths last)
    (hpaths : ∀ path ∈ paths, ∃ interface, path = Manifest.path interface ∧ Path.IsName interface)
    (hbefore : ∀ rest bytes,
      store.tree.file? (Manifest.place (output.absolute here) ++ rest) = some bytes →
        ∃ interface, rest = [interface] ∧ Manifest.path interface ∈ paths) :
    HoldsManifests last.tree.file? (Manifest.place (output.absolute here)) artifacts := by
  have hfiles := hwrote.files
  rw [hroot, creationsAt_eq h hnames] at hfiles
  have hkeys {path : String} := @mem_keys_of_wrote _ _ _ hentries h hwrote path
  have hgone := hcleared.gone
  have hkept := hcleared.kept
  rw [hwrote.root, hroot] at hgone hkept
  -- A file that is no manifest was there before, so it was obsolete.
  have hother {rest : List String} (hrest : ∀ artifact ∈ artifacts, rest ≠ [artifact.interface]) :
      last.tree.file? (Manifest.place (output.absolute here) ++ rest) = none := by
    by_cases hobsolete : ∃ path ∈ paths, path ∉ Keyed.keys written.entries ∧
        Manifest.place (output.absolute here) ++ rest =
          placeIn (output.absolute here) written.tree.here path
    · obtain ⟨path, hpath, hnew, hplace⟩ := hobsolete
      rw [hplace]
      exact hgone path hpath hnew
    · rw [hkept _ fun path hpath hnew hplace => hobsolete ⟨path, hpath, hnew, hplace⟩, hfiles]
      have hplace : ∀ artifact ∈ artifacts, Manifest.place (output.absolute here) ++ rest ≠
          Manifest.place (output.absolute here) ++ [artifact.interface] :=
        fun artifact hartifact heq => hrest artifact hartifact (List.append_cancel_left heq)
      rcases after_manifestChanges_of_not_mem hplace with hnone | hsame
      · exact hnone
      · rw [hsame]
        by_contra hne
        obtain ⟨bytes, hbytes⟩ := Option.ne_none_iff_exists'.mp hne
        obtain ⟨interface, rfl, hpath⟩ := hbefore rest bytes hbytes
        obtain ⟨other, heq, hname⟩ := hpaths _ hpath
        obtain rfl := Manifest.path_injective heq
        refine hobsolete ⟨_, hpath, fun hmem => ?_, (Manifest.placeIn_path hname _ _ _).symm⟩
        obtain ⟨artifact, hartifact, hsame⟩ := hkeys.mp hmem
        rw [h.path artifact hartifact] at hsame
        exact hrest artifact hartifact (by rw [Manifest.path_injective hsame])
  intro rest
  by_cases hmanifest : ∃ artifact ∈ artifacts, rest = [artifact.interface]
  · obtain ⟨artifact, hartifact, rfl⟩ := hmanifest
    rw [file?_of_cleared hroot hentries h hnames hwrote hcleared hpaths hartifact]
    exact (contentOf_of_mem h hartifact).symm
  · rw [hother fun artifact hartifact heq => hmanifest ⟨artifact, hartifact, heq⟩]
    unfold flatFiles
    split
    · rename_i interface
      refine (contentOf_eq_none_iff.mpr fun artifact hartifact heq => ?_).symm
      exact hmanifest ⟨artifact, hartifact, by rw [heq]⟩
    · rfl

end Cleared

end FolderStore

end ServiceManifest
