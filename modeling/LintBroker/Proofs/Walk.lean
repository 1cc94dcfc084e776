/-
  LintBroker.Proofs.Walk

  Where paths lead.  A walk through the names of a path is not led elsewhere when the names
  that stay in a directory are left out, so a path that leads somewhere leads there in its
  normalized form, too (`resolve_normalize`).  That is one of the two things that
  questions about programs take for granted of a file system (`Disk.Lawful`); a tree has
  both.
-/
import LintBroker.Files.Tree
import LintBroker.Proofs.Path
import Mathlib.Data.String.Basic

namespace LintBroker.Files

open LintBroker.Text

/-! ## Normalized texts -/

/-- Pieces are what a path of joined pieces is cut into. -/
theorem splitAt_joinPieces {pieces : List (List Char)} (h : ∀ p ∈ pieces, IsPiece p)
    (hne : pieces ≠ []) : splitAt '/' (joinPieces pieces) = pieces := by
  induction pieces with
  | nil => exact absurd rfl hne
  | cons piece rest ih =>
    have hpiece := splitAt_of_not_mem (h piece (List.mem_cons_self ..)).slash_not_mem
    by_cases hrest : rest = []
    · rw [hrest, joinPieces_singleton, hpiece]
    · rw [joinPieces_cons hrest, splitAt_append, hpiece,
        ih (fun p hp => h p (List.mem_cons_of_mem _ hp)) hrest]
      rfl

/-- The parts of a text with the mark between them are that text. -/
theorem joinPieces_splitAt (cs : List Char) : joinPieces (splitAt '/' cs) = cs := by
  induction cs with
  | nil => rfl
  | cons c rest ih =>
    have hne := splitAt_ne_nil '/' rest
    by_cases hc : c = '/'
    · rw [splitAt, if_pos hc, joinPieces_cons hne, ih, hc]
      rfl
    · rw [splitAt, if_neg hc]
      cases hparts : splitAt '/' rest with
      | nil => exact absurd hparts hne
      | cons part parts =>
        rw [hparts] at ih
        by_cases hlast : parts = []
        · rw [hlast, joinPieces_singleton] at ih ⊢
          rw [ih]
        · rw [joinPieces_cons hlast] at ih ⊢
          rw [List.cons_append, ih]

/-- Leaving out pieces leaves characters out. -/
theorem joinPieces_filter_sublist (test : List Char → Bool) (pieces : List (List Char)) :
    List.Sublist (joinPieces (pieces.filter test)) (joinPieces pieces) := by
  induction pieces with
  | nil => exact List.Sublist.refl _
  | cons piece rest ih =>
    by_cases hrest : rest = []
    · subst hrest
      rw [List.filter_cons]
      split
      · exact List.Sublist.refl _
      · exact List.nil_sublist _
    · rw [joinPieces_cons hrest, List.filter_cons]
      split
      · by_cases hkept : rest.filter test = []
        · rw [hkept, joinPieces_singleton]
          exact List.sublist_append_left _ _
        · rw [joinPieces_cons hkept]
          exact (List.Sublist.refl _).append (ih.cons_cons '/')
      · exact (ih.trans (List.sublist_cons_self ..)).trans (List.sublist_append_right _ _)

theorem joinPieces_pathPieces_sublist (cs : List Char) :
    List.Sublist (joinPieces (pathPieces cs)) cs := by
  have h := joinPieces_filter_sublist (fun piece => piece ≠ [] ∧ piece ≠ ['.']) (splitAt '/' cs)
  rwa [joinPieces_splitAt] at h

/-- The anchor of a path and its pieces are in it. -/
theorem append_joinPieces_sublist (cs : List Char) :
    List.Sublist (pathAnchor cs ++ joinPieces (pathPieces cs)) cs := by
  unfold pathAnchor
  split
  · rw [pathPieces_slash]
    exact (joinPieces_pathPieces_sublist _).cons_cons '/'
  · rw [pathPieces_slash, pathPieces_slash]
    exact ((joinPieces_pathPieces_sublist _).cons_cons '/').cons_cons '/'
  · rw [pathPieces_slash]
    exact (joinPieces_pathPieces_sublist _).cons_cons '/'
  · exact joinPieces_pathPieces_sublist _

theorem normalize_ne_empty (path : String) : normalize path ≠ "" := by
  intro h
  have hchars : normalizeChars path.toList = [] := by
    rw [← String.toList_ofList (l := normalizeChars path.toList)]
    exact congrArg String.toList h
  unfold normalizeChars at hchars
  split at hchars
  · cases hchars
  · rename_i hne
    exact hne hchars

/-- A path that is not empty does not get longer. -/
theorem utf8ByteSize_normalize_le {path : String} (h : path ≠ "") :
    (normalize path).utf8ByteSize ≤ path.utf8ByteSize := by
  have hpath : path.utf8ByteSize = String.utf8Len path.toList := by
    rw [← String.utf8ByteSize_ofList, String.ofList_toList]
  rw [hpath, normalize, String.utf8ByteSize_ofList]
  rcases normalizeChars_cases path.toList with ⟨-, -, hdot⟩ | heq
  · rw [hdot]
    have hpositive : path.utf8ByteSize ≠ 0 := fun hzero =>
      h (String.utf8ByteSize_eq_zero_iff.mp hzero)
    have hone : String.utf8Len ['.'] = 1 := by decide
    omega
  · rw [heq]
    exact String.utf8Len_le_of_sublist (append_joinPieces_sublist _)

/-! ## Walks -/

namespace Tree

variable {tree : Tree} {place target : Place} {name : String} {names : List String}

/-- Every step starts in a directory. -/
theorem entry?_of_step {next : Place} (h : tree.step place name = .ok next) :
    tree.entry? place = some .directory := by
  unfold step at h
  split at h
  · cases h
  · rename_i hdirectory
    exact not_not.mp hdirectory

/-- Two names stay in a directory. -/
theorem step_of_stays (hplace : tree.entry? place = some .directory)
    (hname : name = "" ∨ name = ".") : tree.step place name = .ok place := by
  unfold step
  rw [if_neg (not_not_intro hplace), if_pos hname]

theorem walk_cons_of_stays (hplace : tree.entry? place = some .directory)
    (hname : name = "" ∨ name = ".") : tree.walk place (name :: names) = tree.walk place names := by
  rw [walk, step_of_stays hplace hname]

/-- The first step of a walk and the rest of it. -/
theorem walk_cons_eq_ok (h : tree.walk place (name :: names) = .ok target) :
    ∃ next, tree.step place name = .ok next ∧ tree.walk next names = .ok target := by
  rw [walk] at h
  split at h
  · cases h
  · rename_i next hnext
    exact ⟨next, hnext, h⟩

/-- Parts that stay in a directory can be left out of a walk. -/
theorem walk_pathPieces {parts : List (List Char)}
    (h : tree.walk place (parts.map String.ofList) = .ok target) :
    tree.walk place ((parts.filter fun piece => piece ≠ [] ∧ piece ≠ ['.']).map String.ofList)
      = .ok target := by
  induction parts generalizing place with
  | nil => exact h
  | cons part rest ih =>
    obtain ⟨next, hstep, hrest⟩ := walk_cons_eq_ok h
    by_cases hkept : part ≠ [] ∧ part ≠ ['.']
    · rw [List.filter_cons_of_pos (by simpa using hkept), List.map_cons, walk, hstep]
      exact ih hrest
    · rw [List.filter_cons_of_neg (by simpa using hkept)]
      have hstays : String.ofList part = "" ∨ String.ofList part = "." := by
        rcases not_and_or.mp hkept with hnil | hdot
        · exact Or.inl (by rw [not_not.mp hnil])
        · exact Or.inr (by rw [not_not.mp hdot])
      rw [step_of_stays (entry?_of_step hstep) hstays] at hstep
      cases hstep
      exact ih hrest

/-- A path that leads somewhere leads to the same place in its normalized form. -/
theorem resolve_normalize {directory : Place} {path : String}
    (h : tree.resolve directory path = .ok place) :
    tree.resolve directory (normalize path) = .ok place := by
  unfold resolve at h
  split at h
  · cases h
  rename_i hempty
  split at h
  · cases h
  rename_i hlength
  have habsolute : isAbsolute (normalize path) = isAbsolute path := by
    rw [Bool.eq_iff_iff, isAbsolute_iff, isAbsolute_iff, normalize, String.toList_ofList,
      pathAnchor_normalizeChars]
  unfold resolve
  rw [if_neg (normalize_ne_empty path), habsolute,
    if_neg fun hlong => hlength (Nat.lt_of_lt_of_le hlong (utf8ByteSize_normalize_le hempty))]
  generalize (if isAbsolute path then [] else directory) = start at h ⊢
  have hpieces : tree.walk start ((pathPieces path.toList).map String.ofList) = .ok place :=
    walk_pathPieces h
  have hstart : tree.entry? start = some .directory := by
    obtain ⟨first, rest, hfirst⟩ := List.exists_cons_of_ne_nil (splitAt_ne_nil '/' path.toList)
    rw [namesOf, hfirst] at h
    obtain ⟨next, hstep, -⟩ := walk_cons_eq_ok h
    exact entry?_of_step hstep
  -- Whatever the form has in front of its pieces, or in their stead, stays where the walk starts.
  have hstay : ∀ rest, tree.walk start ("" :: rest) = tree.walk start rest := fun _ =>
    walk_cons_of_stays hstart (Or.inl rfl)
  have hjoined : tree.walk start
      ((splitAt '/' (joinPieces (pathPieces path.toList))).map String.ofList) = .ok place := by
    by_cases hnone : pathPieces path.toList = []
    · rw [hnone] at hpieces ⊢
      exact (hstay []).trans hpieces
    · rw [splitAt_joinPieces (fun _ => isPiece_of_mem) hnone]
      exact hpieces
  rw [namesOf, normalize, String.toList_ofList]
  rcases normalizeChars_cases path.toList with ⟨-, hnone, hdot⟩ | heq
  · rw [hdot]
    rw [hnone] at hpieces
    exact (walk_cons_of_stays hstart (Or.inr rfl)).trans hpieces
  · have hanchor := isAnchor_pathAnchor path.toList
    rw [heq]
    generalize pathAnchor path.toList = anchor at hanchor ⊢
    cases hanchor with
    | none => exact hjoined
    | root => exact (hstay _).trans hjoined
    | twoSlashes => exact (hstay _).trans ((hstay _).trans hjoined)

end Tree

/-! ## File systems -/

/-- A file system that goes by its own answers: what can be executed is there, and what is at a path
    is also at the normalized path. -/
structure Disk.Lawful (disk : Disk) : Prop where
  kind_of_executable : ∀ path, disk.executable path = true → ∃ kind, disk.kind path = .ok kind
  kind_normalize : ∀ path kind, disk.kind path = .ok kind → disk.kind (normalize path) = .ok kind

/-- Every tree is such a file system, from wherever it is seen. -/
theorem Tree.lawful_disk (tree : Tree) (directory : Place) : (tree.disk directory).Lawful where
  kind_of_executable path h := by
    simp only [disk] at h ⊢
    cases hfind : tree.find directory path with
    | error e =>
      rw [hfind] at h
      cases h
    | ok entry => exact ⟨entry.kind, rfl⟩
  kind_normalize path kind h := by
    simp only [disk, find] at h ⊢
    cases hresolve : tree.resolve directory path with
    | error e =>
      rw [hresolve] at h
      cases h
    | ok place =>
      rw [hresolve] at h
      rw [resolve_normalize hresolve]
      exact h

end LintBroker.Files
