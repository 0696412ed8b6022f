import Stencil.Log.Layout

/-!
# The places that log lines show

A log line shows the place in the program by a path from the directory of the library on. The directory is found by its
name: the path is cut off behind the first occurrence of `whisker/`. So the place is the same wherever the library is
installed, as long as that name does not occur earlier in the path (`Stencil.Record.shortPath_installed`). It does occur
earlier where the library lies in a directory of the same name, or of a name that ends like that, and then the place
shows a part of the directories in front (`Stencil.Record.exists_shortPath_ne`).

What makes the first occurrence in the whole path the one that is meant is that the name does not overlap with itself:
its first letter does not recur in it (`Stencil.Text.afterFirst?_append`).
-/

namespace Stencil

/-! ### The first occurrence of a word -/

namespace Text

variable {word pre cs : List Char} {first : Char} {tail : List Char}

/-- A word begins inside a text in which it does not occur only if its first letter recurs. -/
theorem not_prefix_append (hfirst : first ∉ tail) (hpre : ¬first :: tail <:+: pre) (hne : pre ≠ [])
    (rest : List Char) : ¬first :: tail <+: pre ++ (first :: tail ++ rest) := by
  intro hprefix
  rcases List.prefix_or_prefix_of_prefix hprefix (List.prefix_append pre _) with hword | ⟨overlap, hoverlap⟩
  · exact hpre hword.isInfix
  · obtain ⟨c, pre, rfl⟩ := List.exists_cons_of_ne_nil hne
    obtain ⟨rfl, htail⟩ := List.cons.inj hoverlap
    -- What the word shares with its own beginning starts with the first letter.
    rw [← hoverlap, List.prefix_append_right_inj] at hprefix
    cases overlap with
    | nil => exact hpre ⟨[], [], by simpa using hoverlap.symm⟩
    | cons d overlap =>
      obtain ⟨rfl, -⟩ := List.cons_prefix_cons.mp hprefix
      exact hfirst (htail ▸ List.mem_append_right pre List.mem_cons_self)

/-- **The first occurrence of a word after a text in which it does not occur** is the one right behind, if the word
cannot overlap with itself. -/
theorem afterFirst?_append (hfirst : first ∉ tail) (hpre : ¬first :: tail <:+: pre) (rest : List Char) :
    afterFirst? (first :: tail) (pre ++ (first :: tail ++ rest)) = some rest := by
  induction pre with
  | nil =>
    rw [List.nil_append, List.cons_append, afterFirst?, ← List.cons_append,
      if_pos (List.isPrefixOf_iff_prefix.mpr (List.prefix_append _ rest)), List.drop_left]
  | cons c pre ih =>
    have hnot := not_prefix_append hfirst hpre (List.cons_ne_nil c pre) rest
    rw [List.cons_append] at hnot ⊢
    rw [afterFirst?, if_neg fun h => hnot (List.isPrefixOf_iff_prefix.mp h)]
    exact ih fun h => hpre (List.infix_cons h)

/-- **What follows the first occurrence of a word** that occurs in a text goes on with what follows the text. -/
theorem exists_afterFirst?_append (hne : word ≠ []) (h : word <:+: cs) (rest : List Char) :
    ∃ after, afterFirst? word (cs ++ rest) = some (after ++ rest) := by
  induction cs with
  | nil => exact absurd (List.infix_nil.mp h) hne
  | cons c cs ih =>
    rw [List.cons_append, afterFirst?, ← List.cons_append]
    split
    · next hprefix =>
      refine ⟨(c :: cs).drop word.length, ?_⟩
      rw [List.drop_append_of_le_length h.length_le]
    · next hprefix =>
      refine ih ((List.infix_cons_iff.mp h).resolve_left fun hword => hprefix ?_)
      exact List.isPrefixOf_iff_prefix.mpr (List.prefix_append_of_prefix hword)

theorem suffix_of_afterFirst? {after : List Char} (h : afterFirst? word cs = some after) : after <:+ cs := by
  induction cs with
  | nil =>
    rw [afterFirst?] at h
    split at h
    · exact Option.some.inj h ▸ List.suffix_rfl
    · exact nomatch h
  | cons c cs ih =>
    rw [afterFirst?] at h
    split at h
    · exact Option.some.inj h ▸ List.drop_suffix _ _
    · exact (ih h).trans (List.suffix_cons c cs)

end Text

/-! ### Paths -/

namespace Record

/-- Whether the name of the directory of the library occurs in a path. -/
def MentionsLibrary (path : String) : Prop := libraryDirectory.toList <:+: path.toList

theorem toList_libraryDirectory : libraryDirectory.toList = ['w', 'h', 'i', 's', 'k', 'e', 'r', '/'] := by decide

theorem shortPath_of_afterFirst? {whole : String} {after : List Char}
    (h : Text.afterFirst? libraryDirectory.toList whole.toList = some after) :
    shortPath whole = String.ofList after := by
  rw [shortPath, pathAnchors, List.findSome?_cons, h]

variable (directory path : String)

/-- **The path in the library is shown if and only if the name of its directory does not occur in front.** -/
theorem shortPath_append_iff :
    shortPath (directory ++ libraryDirectory ++ path) = path ↔ ¬MentionsLibrary directory := by
  have hwhole : (directory ++ libraryDirectory ++ path).toList =
      directory.toList ++ (libraryDirectory.toList ++ path.toList) := by
    rw [String.toList_append, String.toList_append, List.append_assoc]
  rw [MentionsLibrary]
  constructor
  · intro hpath hmentions
    have hne : libraryDirectory.toList ≠ [] := by rw [toList_libraryDirectory]; exact List.cons_ne_nil _ _
    obtain ⟨after, hafter⟩ := Text.exists_afterFirst?_append hne hmentions (libraryDirectory.toList ++ path.toList)
    rw [shortPath_of_afterFirst? (hwhole ▸ hafter)] at hpath
    -- What is shown has the name of the directory in it, and so is longer than the path.
    have hlength := congrArg (fun s : String => s.toList.length) hpath
    rw [String.toList_ofList, List.length_append, List.length_append, toList_libraryDirectory] at hlength
    simp only [List.length_cons] at hlength
    omega
  · intro hmentions
    rw [toList_libraryDirectory] at hmentions
    have hafter := Text.afterFirst?_append (by decide) hmentions path.toList
    rw [← toList_libraryDirectory, ← hwhole] at hafter
    rw [shortPath_of_afterFirst? hafter, String.ofList_toList]

end Record

/-! ### Lines -/

section

variable {g : Graph} {r : Record} {path path' : String}

/-- Lines for programs show nothing of a path but its short form. -/
theorem JsonLayout.line_congr_path (h : Record.shortPath path = Record.shortPath path') (version : String) :
    line g version { r with path := path } = line g version { r with path := path' } := by
  have hplace : placeAttributes { r with path := path } = placeAttributes { r with path := path' } := by
    rw [placeAttributes, placeAttributes, h]
  have hattributes (scope : Value) :
      attributes { r with path := path } scope = attributes { r with path := path' } scope := by
    rw [attributes, attributes, hplace]
    rfl
  unfold line document
  simp only [hattributes]
  rfl

/-- Lines for people show nothing of a path but its short form. -/
theorem HumanLayout.line_congr_path (h : Record.shortPath path = Record.shortPath path') (colours : Bool) :
    line g colours { r with path := path } = line g colours { r with path := path' } := by
  have hplace (m : Memory) : placePieces g m { r with path := path } = placePieces g m { r with path := path' } := by
    rw [placePieces, placePieces, h]
  unfold line pieces
  simp only [hplace]
  rfl

end

namespace Record

/-- **The place in a line does not depend on where the library is installed**, unless the name of its directory occurs
in front: then, and only then, something else than the path in the library is shown. For two directories in which the
name does not occur both layouts have the same lines. -/
theorem shortPath_installed (directory path : String) :
    (shortPath (directory ++ libraryDirectory ++ path) = path ↔ ¬MentionsLibrary directory) ∧
      ∀ other, ¬MentionsLibrary directory → ¬MentionsLibrary other → ∀ (g : Graph) (r : Record),
        let here := { r with path := directory ++ libraryDirectory ++ path }
        let there := { r with path := other ++ libraryDirectory ++ path }
        (∀ version, JsonLayout.line g version here = JsonLayout.line g version there) ∧
          ∀ colours, HumanLayout.line g colours here = HumanLayout.line g colours there := by
  refine ⟨shortPath_append_iff directory path, ?_⟩
  intro other hdirectory hother g r here there
  have hsame : shortPath here.path = shortPath there.path :=
    ((shortPath_append_iff directory path).mpr hdirectory).trans ((shortPath_append_iff other path).mpr hother).symm
  exact ⟨JsonLayout.line_congr_path hsame, HumanLayout.line_congr_path hsame⟩

/-- The same path is shown for a library installed for all users and for one without a directory in front. -/
theorem shortPath_installed_anywhere :
    let path := "template/renderer.py"
    ¬MentionsLibrary "/usr/lib/" ∧ ¬MentionsLibrary "" ∧ shortPath ("/usr/lib/" ++ libraryDirectory ++ path) = path ∧
      ∀ (g : Graph) (r : Record) (colours : Bool),
        HumanLayout.line g colours { r with path := "/usr/lib/" ++ libraryDirectory ++ path } =
          HumanLayout.line g colours { r with path := "" ++ libraryDirectory ++ path } := by
  intro path
  have husers : ¬MentionsLibrary "/usr/lib/" := fun h => absurd (h.subset (a := 'w') (by decide)) (by decide)
  have hnone : ¬MentionsLibrary "" := fun h => absurd (h.subset (a := 'w') (by decide)) (by decide)
  obtain ⟨hpath, hlines⟩ := shortPath_installed "/usr/lib/" path
  exact ⟨husers, hnone, hpath.mpr husers, fun g r => (hlines "" husers hnone g r).2⟩

/-- **Where the library lies in a directory of its own name**, more than the path in the library is shown. -/
theorem exists_shortPath_ne :
    ∃ directory path : String, directory.toList.getLast? = some '/' ∧ ¬MentionsLibrary path ∧
      ¬"src/".toList <:+: path.toList ∧ shortPath (directory ++ libraryDirectory ++ path) ≠ path := by
  refine ⟨"/home/me/whisker/", "template/renderer.py", rfl, ?_, ?_, ?_⟩
  · intro h
    exact absurd (h.subset (a := 'w') (by decide)) (by decide)
  · intro h
    exact absurd (h.subset (a := 's') (by decide)) (by decide)
  · rw [Ne, shortPath_append_iff, Classical.not_not]
    exact ⟨"/home/me/".toList, [], rfl⟩

end Record

end Stencil
