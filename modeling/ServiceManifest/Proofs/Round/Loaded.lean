import ServiceManifest.Loading
import ServiceManifest.Proofs.Json.File
import ServiceManifest.Proofs.Manifest
import ServiceManifest.Proofs.Project.Failures
import ServiceManifest.Proofs.Round.DryRun

/-!
# What a round has listed is loaded

A reader of manifests finds below an output root what a round has written there, and reads the names
that the round has listed in their order, as long as these stand alone on their lines. The names of
classes that a search of a project reports do: they are made of identifiers, full stops and dollar
signs, so each of them is an entry of a manifest and can be the name of a file.
-/

namespace ServiceManifest

open Ascending Disk Grouping Project Source

section Names

variable {dotted : String} {name : QualifiedName}

/-- The only delimiters in a dotted name are the full stops. -/
theorem Source.IsDotted.eq_of_mem (h : IsDotted dotted) {c : Char} (hc : c ∈ dotted.toList)
    (hdelimiter : Text.isDelimiter c = true) : c = '.' := by
  by_contra hne
  rw [← intercalate_nameParts dotted] at hc
  exact not_mem_intercalate (by simpa using hne)
    (fun part hpart => (h part hpart).not_mem_of_isDelimiter hdelimiter) hc

/-- The binary name of a class that is spelled has characters that are no delimiters, and the only
delimiters in it are full stops. -/
theorem QualifiedName.IsSpelled.binary_spec (h : name.IsSpelled) :
    (∃ c ∈ name.binary.toList, Text.isDelimiter c = false) ∧
      ∀ c ∈ name.binary.toList, Text.isDelimiter c = true → c = '.' := by
  have hsome : ∃ c ∈ ("$".intercalate name.simpleNames).toList, Text.isDelimiter c = false := by
    obtain ⟨first, rest, hnames⟩ := List.exists_cons_of_ne_nil h.simpleNames.1
    have hfirst := h.simpleNames.2 first (hnames ▸ List.mem_cons_self)
    obtain ⟨c, hc⟩ := List.exists_mem_of_ne_nil _ (String.toList_eq_nil_iff.not.mpr hfirst.1)
    refine ⟨c, ?_, hfirst.2 c hc⟩
    rw [hnames, String.toList_intercalate, List.map_cons]
    exact mem_intercalate_of_mem List.mem_cons_self hc
  have hnone {c : Char} (hdelimiter : Text.isDelimiter c = true) :
      c ∉ ("$".intercalate name.simpleNames).toList := by
    refine not_mem_intercalate (fun hmem => ?_) fun part hpart =>
      (h.simpleNames.2 part hpart).not_mem_of_isDelimiter hdelimiter
    obtain rfl := List.mem_singleton.mp hmem
    exact absurd hdelimiter (by decide)
  unfold QualifiedName.binary QualifiedName.spelled
  simp only
  split
  · exact ⟨hsome, fun c hc hdelimiter => absurd hc (hnone hdelimiter)⟩
  · rename_i hpackage
    simp only [String.toList_append, List.mem_append]
    obtain ⟨c, hc, hplain⟩ := hsome
    refine ⟨⟨c, Or.inr hc, hplain⟩, ?_⟩
    rintro c ((hc | hc) | hc) hdelimiter
    · exact (h.package.resolve_left hpackage).eq_of_mem hc hdelimiter
    · exact List.mem_singleton.mp hc
    · exact absurd hc (hnone hdelimiter)

/-- No character of the binary name of a class that is spelled is white space. -/
theorem QualifiedName.IsSpelled.isBlank_eq_false (h : name.IsSpelled) {c : Char}
    (hc : c ∈ name.binary.toList) : Text.isBlank c = false := by
  rw [Bool.eq_false_iff]
  intro hblank
  obtain rfl := h.binary_spec.2 c hc (Text.isDelimiter_of_isBlank hblank)
  exact absurd hblank (by decide)

/-- The binary name of a class that is spelled has more in it than delimiters. -/
theorem QualifiedName.IsSpelled.binary_ne (h : name.IsSpelled) {other : String}
    (hother : other.toList.all Text.isDelimiter = true) : name.binary ≠ other := by
  obtain ⟨⟨c, hc, hplain⟩, -⟩ := h.binary_spec
  rintro heq
  rw [List.all_eq_true.mp hother c (heq ▸ hc)] at hplain
  cases hplain

/-- The binary name of a class that is spelled is an entry of a manifest. -/
theorem QualifiedName.IsSpelled.isEntry_binary (h : name.IsSpelled) :
    Manifest.IsEntry name.binary where
  nonempty := h.binary_ne rfl
  stripped := by
    rw [Text.strip, Text.trimList_of_forall fun c hc => h.isBlank_eq_false hc, String.ofList_toList]
  noComment hmem := absurd (h.binary_spec.2 '#' hmem (by decide)) (by decide)
  noLineEnd c hc := by
    have hblank := h.isBlank_eq_false hc
    rw [Bool.eq_false_iff] at hblank ⊢
    exact fun hend => hblank (Text.isBlank_of_isLineBoundary hend)

/-- The binary name of a class that is spelled can be the name of a file. -/
theorem QualifiedName.IsSpelled.isName_binary (h : name.IsSpelled) : Path.IsName name.binary :=
  ⟨h.binary_ne rfl, h.binary_ne (by decide), h.binary_ne (by decide),
    fun hmem => absurd (h.binary_spec.2 '/' hmem (by decide)) (by decide)⟩

end Names

/-- A manifest of which the names stand alone: that of its interface can be the name of a file, and
each provider is an entry. -/
structure Artifact.IsPlain (artifact : Artifact) : Prop where
  interface : Path.IsName artifact.interface
  implementers : ∀ name ∈ artifact.implementers, Manifest.IsEntry name

section Search

variable {σ : Type} {processor : Processor σ} {tree : Tree} {root : Path} {markers : List String}
  {sources : List Source} {artifacts : List Artifact}

/-- Where names are simple, interfaces and their providers are classes that are spelled. -/
theorem Project.Provides.exists_isSpelled
    (hsimple : ∀ source ∈ sources, (source.index markers).NamesAreSimple)
    (hdotted : ∀ source ∈ sources, IsDotted source.unit.module) {source : Source}
    (hsource : source ∈ sources) {interface provider : String}
    (h : Provides markers sources source interface provider) :
    (∃ name : QualifiedName, name.IsSpelled ∧ name.binary = interface) ∧
      ∃ name : QualifiedName, name.IsSpelled ∧ name.binary = provider := by
  obtain ⟨declared, decorator, hmarks, -, hprovider, expr, hexpr, name, ⟨ref, href, hclosest⟩,
    hinterface⟩ := h
  obtain ⟨stated, hstated, other, hother, heq⟩ := (hsimple source hsource).candidates _
    (Source.mem_candidates_index.mpr ⟨declared, decorator, hmarks, rfl⟩)
  have hpath : declared.path = stated.path := congrArg Candidate.path heq
  have hscope : declared.scope = stated.scope := congrArg Candidate.scope heq
  have hdecorator : decorator = other := congrArg Candidate.decorator heq
  refine ⟨⟨name, ?_, hinterface⟩, _, ⟨Or.inr (hdotted source hsource), ?_⟩, hprovider⟩
  · rw [hscope] at href
    have hnames := namesAreSimple_interfaceExpressions (hstated.decorators other hother)
    exact (isSpelled_of_resolve (namesAreSimple_modulesOf hsimple) (hsimple source hsource)
      hstated.scope (hnames expr (hdecorator ▸ hexpr)) href).closestClass hclosest
  · exact (congrArg IsSimplePath hpath).mpr hstated.path

/-- The names of classes that a search of a project reports stand alone in the manifests of a
round. -/
theorem isPlain_of_scan
    (h : (processor.process (scan tree root markers).resolution).outcome = .ok artifacts) :
    ∀ artifact ∈ artifacts, artifact.IsPlain := by
  obtain ⟨-, occurrences, grouping, hresolution, rfl, hordered, hsound, hentries⟩ :=
    Processor.exists_grouping_of_process h
  obtain ⟨modules, hscan, hoccurrences⟩ := resolution_eq_ok hresolution
  obtain ⟨found, sources, hfound, rfl, hkeeps⟩ := exists_keeps_of_scan hscan
  have himportable : ∀ source ∈ sources, isImportable source.unit.module = true :=
    fun source hsource => isImportable_of_discover hfound (hkeeps.mem_units hsource)
  have hspelled {interface : String} {entry : Contribution}
      (hentry : entry ∈ grouping.entries interface) :
      (∃ name : QualifiedName, name.IsSpelled ∧ name.binary = interface) ∧
        ∃ name : QualifiedName, name.IsSpelled ∧ name.binary = entry.1 := by
    obtain ⟨source, hsource, -, hprovides⟩ := (exists_contributes_iff_provides hoccurrences hsound
      interface entry.1 entry.2).mp ((hentries interface entry).mp hentry)
    exact hprovides.exists_isSpelled
      (fun source hsource => Source.namesAreSimple (hkeeps.isIn source hsource)
        (himportable source hsource))
      (fun source hsource => isDotted_of_isImportable (himportable source hsource)) hsource
  intro artifact hartifact
  obtain ⟨interface, hinterface, rfl⟩ := List.mem_map.mp hartifact
  refine ⟨?_, fun provider hprovider => ?_⟩
  · obtain ⟨entry, hentry⟩ := (mem_keys_iff hordered interface).mp hinterface
    obtain ⟨name, hname, rfl⟩ := (hspelled hentry).1
    exact hname.isName_binary
  · obtain ⟨entry, hentry, rfl⟩ := List.mem_map.mp
      ((mem_ofList textBefore_isOrder).mp hprovider)
    obtain ⟨name, hname, heq⟩ := (hspelled hentry).2
    exact heq ▸ hname.isEntry_binary

end Search

namespace Loading

variable {tree : Tree} {root : Path} {place : Place} {interface given : String}
  {names : List String}

/-- The path under which the manifest of an interface is looked for below a folder. -/
def manifestPath (given interface : String) : Path :=
  (Path.ofString given).join (Path.ofString (Manifest.path interface))

/-- Different entries that are listed in a manifest are loaded in their order. -/
theorem services_of_lookup (h : Manifest.IsListing names)
    (hlookup : tree.lookup (manifestPath given interface) =
      .ok (place, .file (Manifest.render names).toUTF8)) :
    services tree interface given = .ok names := by
  have hexists : tree.exists? (manifestPath given interface) = .ok true :=
    Tree.exists?_eq_true_iff.mpr ⟨_, _, hlookup⟩
  have hread : tree.read (manifestPath given interface) = .ok (Manifest.render names).toUTF8 := by
    rw [Tree.read, hlookup]
  unfold manifestPath at hexists hread
  unfold services
  simp only [hexists, readText_of_read h.not_mem_render hread, Except.map, Manifest.read_render h]

/-- A text that names an output root, seen from a tree: its path has no part `..` and the root for its
absolute form, or it leads to the root and is not too long with the path of a manifest behind it. -/
def NamesRoot (tree : Tree) (root : Path) (interface given : String) : Prop :=
  (".." ∉ (Path.ofString given).parts ∧ (Path.ofString given).absolute tree.here = root) ∨
    (tree.lookup (Path.ofString given) = .ok (root.parts, .folder) ∧
      (manifestPath given interface).toString.utf8ByteSize ≤ pathLimit)

/-- A manifest that lies below an output root is found below each path that names the root. -/
theorem NamesRoot.lookup (h : NamesRoot tree root interface given) (hsound : tree.IsSound)
    (hname : Path.IsName interface)
    (husable : Tree.IsUsable ⟨root.anchor, Manifest.place root ++ [interface]⟩) {bytes : ByteArray}
    (hfile : tree.file? (Manifest.place root ++ [interface]) = some bytes) :
    tree.lookup (manifestPath given interface) =
      .ok (Manifest.place root ++ [interface], .file bytes) := by
  have hup : ".." ∉ ["META-INF", "services", interface] := by simp [Ne.symm hname.2.2.1]
  rcases h with ⟨hgiven, rfl⟩ | ⟨hroot, hlength⟩
  · have habsolute := Manifest.absolute_join_path hname (Path.ofString given) tree.here
    rw [← habsolute] at husable
    have hplace : (((Path.ofString given).join
        (Path.ofString (Manifest.path interface))).absolute tree.here).parts =
          Manifest.place ((Path.ofString given).absolute tree.here) ++ [interface] :=
      congrArg Path.parts habsolute
    rw [← hplace] at hfile ⊢
    refine hsound.lookup_of_file? ?_ husable hfile
    rw [manifestPath, Manifest.ofString_path hname, Path.join, if_pos rfl, List.mem_append, not_or]
    exact ⟨hgiven, hup⟩
  · obtain ⟨hnul, -, hshort⟩ := husable
    unfold manifestPath at hlength ⊢
    rw [Manifest.ofString_path hname] at hlength ⊢
    unfold Manifest.place at hnul hshort hfile ⊢
    simp only [List.append_assoc, List.cons_append, List.nil_append] at hnul hshort hfile ⊢
    refine hsound.lookup_join_of_file? hroot rfl hup ?_ ?_ hlength hfile
    · simp only [Path.hasNul, List.any_append, Bool.or_eq_false_iff] at hnul ⊢
      exact hnul.2
    · exact fun name hmem => hshort name (List.mem_append_right _ hmem)

end Loading

section Round

variable {processor : Processor FolderStore} {resolution : Resolution} {artifacts : List Artifact}

/-- The manifests that a round has written to a folder, if their names stand alone, are loaded from the
folder as they were listed. -/
theorem services_of_process (hstore : processor.store = FolderStore.artifactStore)
    (hrooted : processor.state.IsRooted) (hsound : processor.state.tree.IsSound)
    (h : (processor.process resolution).outcome = .ok artifacts)
    (hplain : ∀ artifact ∈ artifacts, artifact.IsPlain) {artifact : Artifact}
    (hartifact : artifact ∈ artifacts) {given : String}
    (hgiven : Loading.NamesRoot (processor.process resolution).processor.state.tree
      processor.state.root artifact.interface given) :
    Loading.services (processor.process resolution).processor.state.tree artifact.interface given =
      .ok artifact.implementers := by
  obtain ⟨hcreates, occurrences, grouping, -, heq, hordered, -, -⟩ :=
    Processor.exists_grouping_of_process h
  rw [hstore] at hcreates
  have hwrote := FolderStore.wrote_of_creates hcreates
  have hmanifests : AreManifests artifacts := heq ▸ Grouping.areManifests hordered
  have habsolute : processor.state.root.absolute processor.state.tree.here = processor.state.root :=
    Path.absolute_of_anchored hrooted.anchored hrooted.plain
  have hname := (hplain artifact hartifact).interface
  have hlisting : Manifest.IsListing artifact.implementers := by
    refine ⟨?_, (hplain artifact hartifact).implementers⟩
    obtain ⟨interface, -, rfl⟩ := List.mem_map.mp (heq ▸ hartifact)
    exact nodup_of_pairwise textBefore_isOrder (pairwise_ofList textBefore_isOrder _)
  have hfile : (processor.process resolution).processor.state.tree.file?
      (Manifest.place processor.state.root ++ [artifact.interface]) =
        some (Manifest.render artifact.implementers).toUTF8 := by
    have hcreations := FolderStore.creationsAt_eq hmanifests
      (fun other hother => (hplain other hother).interface) processor.state.root
      processor.state.tree.here processor.state.tree.here
    rw [habsolute] at hcreations
    rw [hwrote.files, hcreations]
    exact after_manifestChanges_of_mem hmanifests hartifact
  have husable := hwrote.usable artifact hartifact
  rw [hmanifests.path artifact hartifact, Manifest.absolute_join_path hname, habsolute] at husable
  exact Loading.services_of_lookup hlisting
    (hgiven.lookup (hwrote.reaches.isSound hsound) hname husable hfile)

end Round

/-- What is read of a text is a listing, which is read again once it is written, and so is every other
listing. Manifests that a round has written below an output root, of classes that a search of a project
has reported or of other names that stand alone, are loaded from there: under every text that names the
root, the providers are those that the round has listed, in that order. -/
theorem manifests_are_read_as_written :
    (∀ text, Manifest.IsListing (Manifest.read text) ∧
      Manifest.read (Manifest.render (Manifest.read text)) = Manifest.read text) ∧
    (∀ names, Manifest.IsListing names → Manifest.read (Manifest.render names) = names) ∧
    ∀ (processor : Processor FolderStore) (resolution : Resolution) (artifacts : List Artifact),
      processor.store = FolderStore.artifactStore → processor.state.IsRooted →
      processor.state.tree.IsSound → (processor.process resolution).outcome = .ok artifacts →
      (∃ tree root markers, resolution = (scan tree root markers).resolution) ∨
          (∀ artifact ∈ artifacts, artifact.IsPlain) →
      ∀ artifact ∈ artifacts, ∀ given,
        Loading.NamesRoot (processor.process resolution).processor.state.tree processor.state.root
          artifact.interface given →
        Loading.services (processor.process resolution).processor.state.tree artifact.interface
          given = .ok artifact.implementers := by
  refine ⟨fun text => ⟨Manifest.isListing_read text, Manifest.read_render ?_⟩,
    fun names h => Manifest.read_render h, ?_⟩
  · exact Manifest.isListing_read text
  intro processor resolution artifacts hstore hrooted hsound h hnames artifact hartifact given hgiven
  have hplain : ∀ artifact ∈ artifacts, artifact.IsPlain := by
    rcases hnames with ⟨tree, root, markers, rfl⟩ | hplain
    · exact isPlain_of_scan h
    · exact hplain
  exact services_of_process hstore hrooted hsound h hplain hartifact hgiven

/-- A round over a module with one provider that writes to a folder. -/
def writtenRound : Answer FolderStore (List Artifact) :=
  (Processor.start ⟨true, false⟩ FolderStore.artifactStore
    (.ofRoot ⟨"", ["out"]⟩ oneProvider)).process (scan oneProvider ⟨"/", []⟩ defaultMarkers).resolution

/-- The one provider is loaded from the folder, under each of several names of it. -/
theorem writtenRound_is_loaded :
    Manifest.read (Manifest.render ["a.A", "a.B"]) = ["a.A", "a.B"] ∧
      ∀ given ∈ ["out", "/out", "out/../out"],
        Loading.services writtenRound.processor.state.tree "a.J" given = .ok ["a.A"] := by
  obtain ⟨-, hlisting, hround⟩ := manifests_are_read_as_written
  refine ⟨hlisting _ (by decide +kernel), ?_⟩
  have houtcome : writtenRound.outcome.toOption =
      some [⟨"META-INF/services/a.J", "a.J", ["a.A"], ⟨true, [⟨"a.py", "a"⟩]⟩, "a.A\n"⟩] := by
    decide +kernel
  have hfolder : writtenRound.processor.state.tree.lookup (Path.ofString "out/../out") =
      .ok (["out"], .folder) := by
    decide +kernel
  cases hartifacts : writtenRound.outcome with
  | error failure => simp [hartifacts, Except.toOption] at houtcome
  | ok artifacts =>
    rw [hartifacts] at houtcome
    obtain rfl := Option.some.inj houtcome
    have hrooted : (FolderStore.ofRoot ⟨"", ["out"]⟩ oneProvider).IsRooted :=
      (@FolderStore.isRooted_of_openAt ⟨"", ["out"]⟩ oneProvider _ (by decide) rfl).1
    have hload := hround _ _ _ rfl hrooted (by decide) hartifacts (Or.inl ⟨_, _, _, rfl⟩) _
      List.mem_cons_self
    simp only [List.forall_mem_cons, List.not_mem_nil, false_implies, implies_true, and_true]
    exact ⟨hload _ (Or.inl (by decide +kernel)), hload _ (Or.inl (by decide +kernel)),
      hload _ (Or.inr ⟨hfolder, by decide +kernel⟩)⟩

end ServiceManifest
