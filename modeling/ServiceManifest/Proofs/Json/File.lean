import ServiceManifest.Json.File
import ServiceManifest.Proofs.Json.RoundTrip
import ServiceManifest.Proofs.Text.Lines

/-!
# Documents that are written to files and read again

The text of a document has no carriage return, so that reading it from a file, which changes line
ends, gives back the text and with it the document.
-/

namespace ServiceManifest

/-- The text that a string is in UTF-8 is the string. -/
@[simp] theorem Text.ofUtf8_toUTF8 (s : String) : Text.ofUtf8 s.toUTF8 = .ok s := by
  have hread : String.fromUTF8? s.toUTF8 = some s := dif_pos s.isValidUTF8
  rw [Text.ofUtf8, hread]

namespace Json

section NoReturn

/-- No digit is a carriage return. -/
theorem not_mem_hexDigits {n : Nat} (hn : n < 0x10000) : '\r' ∉ Text.hexDigits 4 n := by
  have hdigit : ∀ d, d < 16 → '\r' ≠ Nat.digitChar d := by decide
  rw [hexDigits_four hn]
  simp only [List.mem_cons, List.not_mem_nil, or_false, not_or]
  exact ⟨hdigit _ (by omega), hdigit _ (by omega), hdigit _ (by omega), hdigit _ (by omega)⟩

/-- No escape of a unit has a carriage return. -/
theorem not_mem_unitEscape {n : Nat} (hn : n < 0x10000) : '\r' ∉ unitEscape n := by
  have hdigits := not_mem_hexDigits hn
  simp only [unitEscape, List.mem_cons, not_or]
  exact ⟨by decide, by decide, hdigits⟩

/-- No character is written with a carriage return. -/
theorem not_mem_escapeChar (c : Char) : '\r' ∉ escapeChar c := by
  have hmax : c.toNat < 0x110000 := by
    have hvalid : c.toNat.isValidChar := c.valid
    rcases hvalid with h | ⟨-, h⟩ <;> omega
  unfold escapeChar
  split
  · rename_i hc
    rcases hc with rfl | rfl <;> decide
  split
  · decide
  split
  · decide
  split
  · decide
  split
  · decide
  split
  · decide
  split
  · rename_i hreturn _ _ _ _
    exact fun hmem => hreturn (List.mem_singleton.mp hmem).symm
  split
  · rename_i hunit
    exact not_mem_unitEscape hunit
  · rw [List.mem_append, not_or]
    exact ⟨not_mem_unitEscape (by omega), not_mem_unitEscape (by omega)⟩

/-- No string is written with a carriage return. -/
theorem not_mem_renderString (s : String) : '\r' ∉ (renderString s).toList := by
  simp only [renderString, String.toList_ofList, List.mem_append, List.mem_cons, List.mem_flatMap,
    List.not_mem_nil, or_false, not_or]
  refine ⟨⟨by decide, ?_⟩, by decide⟩
  rintro ⟨c, -, hmem⟩
  exact not_mem_escapeChar c hmem

/-- No carriage return comes in between pieces. -/
theorem not_mem_block {first last : String} (hfirst : '\r' ∉ first.toList)
    (hlast : '\r' ∉ last.toList) (level : Nat) {pieces : List String}
    (hpieces : ∀ piece ∈ pieces, '\r' ∉ piece.toList) :
    '\r' ∉ (block first last level pieces).toList := by
  have hspace {level : Nat} : '\r' ∉ (breakLine level).toList := by
    simp [breakLine]
  cases pieces with
  | nil => simp [block, hfirst, hlast]
  | cons piece pieces =>
    rw [toList_block]
    simp only [List.mem_append, not_or]
    refine ⟨hfirst, hspace, hpieces piece List.mem_cons_self, ?_, hspace, hlast⟩
    simp only [further, List.mem_flatMap, List.mem_map, List.mem_cons, List.mem_append]
    rintro ⟨_, ⟨other, hother, rfl⟩, hmem | hmem | hmem⟩
    · exact absurd hmem (by decide)
    · exact hspace hmem
    · exact hpieces other (List.mem_cons_of_mem piece hother) hmem

/-- No value without numbers is written with a carriage return. -/
theorem not_mem_renderBlock {depth : Nat} {value : Value} (h : value.Readable depth) (level : Nat) :
    '\r' ∉ (renderBlock level value).toList := by
  induction h generalizing level with
  | null depth => simp [renderBlock, renderAtom]
  | bool depth value => cases value <;> simp [renderBlock, renderAtom]
  | string depth value => exact not_mem_renderString value
  | array hitems ih =>
    rw [renderBlock, renderBlockItems_eq_map]
    refine not_mem_block (by simp) (by simp) level fun piece hpiece => ?_
    obtain ⟨item, hitem, rfl⟩ := List.mem_map.mp hpiece
    exact ih item hitem (level + 1)
  | @object depth entries hnodup hentries ih =>
    rw [renderBlock, renderBlockEntries_eq_map, Keyed.ascending_map, List.map_map]
    refine not_mem_block (by simp) (by simp) level fun piece hpiece => ?_
    obtain ⟨entry, hentry, rfl⟩ := List.mem_map.mp hpiece
    have hmem := (Keyed.ascending_perm entries).mem_iff.mp hentry
    simp only [Function.comp_apply, String.toList_append, List.mem_append, not_or]
    exact ⟨⟨not_mem_renderString _, by simp⟩, ih entry hmem (level + 1)⟩

end NoReturn

end Json

/-- A text without carriage returns that is in a file is read from it. -/
theorem readText_of_read {tree : Disk.Tree} {path : Path} {text : String} (h : '\r' ∉ text.toList)
    (hread : tree.read path = .ok text.toUTF8) : readText tree path = .ok text := by
  rw [readText, hread]
  simp only [Text.ofUtf8_toUTF8, Text.unifyLineEnds_of_not_mem h, String.ofList_toList]

/-- A document that was written to a file is read as it was written, with the entries of every
object by ascending name. -/
theorem readDocument_of_read {tree : Disk.Tree} {path : Path} {value : Json.Value}
    (h : value.Readable Json.depthLimit)
    (hread : tree.read path = .ok (Json.renderBlock 0 value ++ "\n").toUTF8) :
    readDocument tree path = .ok value.ordered := by
  have hreturn : '\r' ∉ (Json.renderBlock 0 value ++ "\n").toList := by
    rw [String.toList_append, List.mem_append, not_or]
    exact ⟨Json.not_mem_renderBlock h 0, by simp⟩
  rw [readDocument, readText_of_read hreturn hread]
  simp only [Json.read_renderBlock h, Except.mapError]

end ServiceManifest
