import ServiceManifest.Manifest
import ServiceManifest.Proofs.Text.Lines

/-!
# Manifests are read as they are written

A manifest is read line by line, and of a line what stands before a comment counts, without the white
space around it. So the names that are read are listings: they are different, and each is an entry,
a text that stands alone on its line. In turn a listing that is written and read again is the same
listing, and whatever a text says, its names can be written and are then read back.
-/

namespace ServiceManifest

namespace Manifest

/-- A text that stands alone on a line: there is some, white space at its ends has been stripped, and
it neither starts a comment nor ends the line. -/
structure IsEntry (name : String) : Prop where
  nonempty : name ≠ ""
  stripped : Text.strip name = name
  noComment : '#' ∉ name.toList
  noLineEnd : ∀ c ∈ name.toList, Text.isLineBoundary c = false

instance (name : String) : Decidable (IsEntry name) :=
  decidable_of_iff (name ≠ "" ∧ Text.strip name = name ∧ name.toList.contains '#' = false ∧
      name.toList.all (!Text.isLineBoundary ·) = true)
    ⟨fun ⟨hsome, hstripped, hcomment, hend⟩ => ⟨hsome, hstripped, by simpa using hcomment,
        by simpa using hend⟩,
      fun ⟨hsome, hstripped, hcomment, hend⟩ => ⟨hsome, hstripped, by simpa using hcomment,
        by simpa using hend⟩⟩

/-- Different entries in a row. -/
structure IsListing (names : List String) : Prop where
  nodup : names.Nodup
  entries : ∀ name ∈ names, IsEntry name

instance (names : List String) : Decidable (IsListing names) :=
  decidable_of_iff (names.Nodup ∧ ∀ name ∈ names, IsEntry name)
    ⟨fun ⟨hnodup, hentries⟩ => ⟨hnodup, hentries⟩, fun ⟨hnodup, hentries⟩ => ⟨hnodup, hentries⟩⟩

section Reading

variable {names : List String} {name : String} {line : List Char}

/-- The name on a line is an entry, if there is one. -/
theorem isEntry_nameOnLine (hline : ∀ c ∈ line, Text.isLineBoundary c = false)
    (hname : nameOnLine line ≠ []) : IsEntry (String.ofList (nameOnLine line)) where
  nonempty := by simpa using hname
  stripped := by
    rw [Text.strip, String.toList_ofList, nameOnLine, Text.trimList_trimList]
  noComment := by
    rw [String.toList_ofList]
    intro hcomment
    have hbefore := List.mem_takeWhile_imp ((Text.trimList_sublist _ _).subset hcomment)
    simp at hbefore
  noLineEnd := by
    rw [String.toList_ofList]
    exact fun c hc => hline c ((List.takeWhile_sublist _).subset ((Text.trimList_sublist _ _).subset hc))

/-- An entry is the name on its line. -/
theorem IsEntry.nameOnLine_toList (h : IsEntry name) :
    String.ofList (nameOnLine name.toList) = name := by
  have hall : name.toList.takeWhile (· ≠ '#') = name.toList :=
    List.takeWhile_eq_self_iff.mpr fun c hc => decide_eq_true fun heq => h.noComment (heq ▸ hc)
  rw [nameOnLine, hall]
  exact h.stripped

/-- Adding an entry to a listing makes a listing, and nothing is added for a line without a name. -/
theorem IsListing.addName (h : IsListing names) (hname : name ≠ "" → IsEntry name) :
    IsListing (addName names name) := by
  unfold Manifest.addName
  split
  · exact h
  · rename_i hnew
    rw [Bool.or_eq_true, decide_eq_true_eq, List.contains_iff_mem, not_or] at hnew
    refine ⟨?_, List.forall_mem_append.mpr
      ⟨h.entries, List.forall_mem_singleton.mpr (hname hnew.1)⟩⟩
    rw [List.nodup_append]
    refine ⟨h.nodup, by simp, ?_⟩
    rintro listed hlisted _ hmem rfl
    exact hnew.2 (List.mem_singleton.mp hmem ▸ hlisted)

/-- Whatever a text says, what is read of it is a listing. -/
theorem isListing_read (text : String) : IsListing (read text) := by
  have hlines : ∀ line ∈ Text.lines text.toList, ∀ c ∈ line, Text.isLineBoundary c = false :=
    fun line hline => Text.not_isLineBoundary_of_mem_linesFrom (by simp) hline
  have hstart : IsListing [] := ⟨List.nodup_nil, by simp⟩
  unfold read
  -- Every line adds to the listing that the lines before it make.
  generalize Text.lines text.toList = lines, ([] : List String) = names at hlines hstart ⊢
  induction lines generalizing names with
  | nil => exact hstart
  | cons line rest ih =>
    obtain ⟨hline, hrest⟩ := List.forall_mem_cons.mp hlines
    exact ih _ hrest (hstart.addName fun hname =>
      isEntry_nameOnLine hline fun hnil => hname (by rw [hnil]))

end Reading

section Writing

variable {names seen : List String}

/-- The lines of a written manifest are its names. -/
theorem lines_render (h : ∀ name ∈ names, ∀ c ∈ name.toList, Text.isLineBoundary c = false) :
    Text.lines (render names).toList = names.map String.toList := by
  induction names with
  | nil => rfl
  | cons name rest ih =>
    obtain ⟨hname, hrest⟩ := List.forall_mem_cons.mp h
    have hfront : (render (name :: rest)).toList = name.toList ++ '\n' :: (render rest).toList := by
      simp [render, lineEnd, String.join_cons]
    rw [hfront, Text.lines, Text.linesFrom_append hname, List.map_cons]
    exact congrArg _ (ih hrest)

/-- Different names are added one after the other. -/
theorem foldl_addName (hnodup : (seen ++ names).Nodup) (hnames : ∀ name ∈ names, name ≠ "") :
    names.foldl addName seen = seen ++ names := by
  induction names generalizing seen with
  | nil => simp
  | cons name rest ih =>
    obtain ⟨hname, hrest⟩ := List.forall_mem_cons.mp hnames
    have hnew : name ∉ seen := fun hseen =>
      (List.nodup_append.mp hnodup).2.2 name hseen name List.mem_cons_self rfl
    have hadded : addName seen name = seen ++ [name] := by simp [addName, hname, hnew]
    rw [List.foldl_cons, hadded, ih (by simpa using hnodup) hrest, List.append_assoc]
    rfl

/-- No carriage return is written. -/
theorem IsListing.not_mem_render (h : IsListing names) : '\r' ∉ (render names).toList := by
  have hentries := h.entries
  clear h
  induction names with
  | nil => simp [render]
  | cons name rest ih =>
    obtain ⟨hname, hrest⟩ := List.forall_mem_cons.mp hentries
    have hreturn : '\r' ∉ name.toList := fun hmem => absurd (hname.noLineEnd _ hmem) (by decide)
    have hmore : '\r' ∉ (render rest).toList := ih hrest
    simp only [render, lineEnd, List.map_cons, String.join_cons, String.toList_append, List.mem_append,
      not_or] at hmore ⊢
    exact ⟨⟨hreturn, by decide⟩, hmore⟩

/-- A listing that is written is read back. -/
theorem read_render (h : IsListing names) : read (render names) = names := by
  have hnames : names.map (fun name => String.ofList (nameOnLine name.toList)) = names :=
    (List.map_congr_left fun name hname => (h.entries name hname).nameOnLine_toList).trans
      (List.map_id' names)
  have hfold : (names.map String.toList).foldl
      (fun names line => addName names (String.ofList (nameOnLine line))) [] =
        (names.map fun name => String.ofList (nameOnLine name.toList)).foldl addName [] := by
    rw [List.foldl_map, List.foldl_map]
  rw [read, lines_render fun name hname => (h.entries name hname).noLineEnd, hfold, hnames]
  exact foldl_addName h.nodup fun name hname => (h.entries name hname).nonempty

end Writing

end Manifest

end ServiceManifest
