/-
  LintBroker.Proofs.Path

  A path text is its anchor and its pieces, and that is all that counts of it.
  Normalizing keeps both, so a path and its normalized form name the same thing, have
  the same suffix and the same language; what is put behind a path adds its pieces.
-/
import LintBroker.Files.Disk
import LintBroker.Language
import Mathlib.Data.List.Basic
import Mathlib.Data.List.Induction

namespace LintBroker.Files

open LintBroker.Text

/-! ## Pieces -/

/-- A piece of a path: neither empty nor a single dot, and without a slash. -/
structure IsPiece (piece : List Char) : Prop where
  ne_nil : piece ≠ []
  ne_dot : piece ≠ ['.']
  slash_not_mem : '/' ∉ piece

theorem isPiece_of_mem {cs piece : List Char} (h : piece ∈ pathPieces cs) : IsPiece piece := by
  obtain ⟨hpart, hkept⟩ := List.mem_filter.mp h
  obtain ⟨hnil, hdot⟩ := of_decide_eq_true hkept
  exact ⟨hnil, hdot, fun hslash => (ne_and_mem_of_mem_splitAt hpart hslash).1 rfl⟩

theorem pathPieces_nil : pathPieces [] = [] := rfl

theorem pathPieces_append_slash (front back : List Char) :
    pathPieces (front ++ '/' :: back) = pathPieces front ++ pathPieces back := by
  unfold pathPieces
  rw [splitAt_append, List.filter_append]

theorem pathPieces_slash (cs : List Char) : pathPieces ('/' :: cs) = pathPieces cs :=
  pathPieces_append_slash [] cs

theorem IsPiece.pathPieces_eq {piece : List Char} (h : IsPiece piece) :
    pathPieces piece = [piece] := by
  unfold pathPieces
  rw [splitAt_of_not_mem h.slash_not_mem]
  exact List.filter_cons_of_pos (decide_eq_true ⟨h.ne_nil, h.ne_dot⟩)

theorem IsPiece.head?_ne {piece : List Char} (h : IsPiece piece) : piece.head? ≠ some '/' :=
  fun hhead => h.slash_not_mem (List.mem_of_head? hhead)

/-! ## Joining -/

theorem joinPieces_cons {piece : List Char} {rest : List (List Char)} (h : rest ≠ []) :
    joinPieces (piece :: rest) = piece ++ '/' :: joinPieces rest := by
  unfold joinPieces
  cases rest with
  | nil => exact absurd rfl h
  | cons next others => rw [List.intercalate_cons_cons, List.append_assoc, List.singleton_append]

theorem joinPieces_singleton (piece : List Char) : joinPieces [piece] = piece :=
  List.intercalate_singleton

/-- Joined pieces are cut where they were joined. -/
theorem pathPieces_joinPieces {pieces : List (List Char)} (h : ∀ p ∈ pieces, IsPiece p) :
    pathPieces (joinPieces pieces) = pieces := by
  induction pieces with
  | nil => rfl
  | cons piece rest ih =>
    have hpiece := h piece (List.mem_cons_self ..)
    by_cases hrest : rest = []
    · rw [hrest, joinPieces_singleton, hpiece.pathPieces_eq]
    · rw [joinPieces_cons hrest, pathPieces_append_slash, hpiece.pathPieces_eq,
        ih fun p hp => h p (List.mem_cons_of_mem _ hp)]
      rfl

theorem head?_joinPieces_ne {pieces : List (List Char)} (h : ∀ p ∈ pieces, IsPiece p) :
    (joinPieces pieces).head? ≠ some '/' := by
  cases pieces with
  | nil => simp [joinPieces]
  | cons piece rest =>
    have hpiece := h piece (List.mem_cons_self ..)
    by_cases hrest : rest = []
    · rw [hrest, joinPieces_singleton]
      exact hpiece.head?_ne
    · rw [joinPieces_cons hrest, List.head?_append_of_ne_nil _ hpiece.ne_nil]
      exact hpiece.head?_ne

theorem joinPieces_ne_nil {pieces : List (List Char)} (h : ∀ p ∈ pieces, IsPiece p)
    (hne : pieces ≠ []) : joinPieces pieces ≠ [] := by
  intro hnil
  have hpieces := pathPieces_joinPieces h
  rw [hnil] at hpieces
  exact hne hpieces.symm

/-! ## Anchors -/

/-- The three beginnings that a path can have. -/
inductive IsAnchor : List Char → Prop where
  | none : IsAnchor []
  | root : IsAnchor ['/']
  | twoSlashes : IsAnchor ['/', '/']

theorem isAnchor_pathAnchor (cs : List Char) : IsAnchor (pathAnchor cs) := by
  unfold pathAnchor
  split
  · exact .root
  · exact .twoSlashes
  · exact .root
  · exact .none

/-- A body that does not begin with a slash leaves the anchor in front of it alone. -/
theorem IsAnchor.pathAnchor_append {anchor body : List Char} (h : IsAnchor anchor)
    (hbody : body.head? ≠ some '/') : pathAnchor (anchor ++ body) = anchor := by
  have hplain : ∀ c rest, body = c :: rest → c ≠ '/' := by
    intro c rest hcons hc
    rw [hcons, hc] at hbody
    exact hbody rfl
  cases body with
  | nil => cases h <;> rfl
  | cons c rest =>
    have hc := hplain c rest rfl
    cases h <;> simp [pathAnchor, hc]

theorem IsAnchor.pathPieces_append {anchor : List Char} (h : IsAnchor anchor) (body : List Char) :
    pathPieces (anchor ++ body) = pathPieces body := by
  cases h with
  | none => rfl
  | root => exact pathPieces_slash body
  | twoSlashes => exact (pathPieces_slash _).trans (pathPieces_slash body)

theorem pathAnchor_eq_nil_iff {cs : List Char} : pathAnchor cs = [] ↔ cs.head? ≠ some '/' := by
  cases cs with
  | nil => simp [pathAnchor]
  | cons c rest =>
    by_cases hc : c = '/'
    · subst hc
      refine iff_of_false ?_ (fun h => h rfl)
      unfold pathAnchor
      split <;> simp_all
    · simp [pathAnchor, hc]

/-! ## Normalized paths -/

/-- A normalized path is the anchor and the pieces, or the dot that stands for none of them. -/
theorem normalizeChars_cases (cs : List Char) :
    (pathAnchor cs = [] ∧ pathPieces cs = [] ∧ normalizeChars cs = ['.'])
      ∨ normalizeChars cs = pathAnchor cs ++ joinPieces (pathPieces cs) := by
  unfold normalizeChars
  split
  · rename_i hnil
    obtain ⟨hanchor, hjoined⟩ := List.append_eq_nil_iff.mp hnil
    refine Or.inl ⟨hanchor, ?_, rfl⟩
    by_contra hne
    exact joinPieces_ne_nil (fun _ => isPiece_of_mem) hne hjoined
  · exact Or.inr rfl

theorem normalizeChars_of_pieces {cs : List Char} (h : pathPieces cs ≠ []) :
    normalizeChars cs = pathAnchor cs ++ joinPieces (pathPieces cs) :=
  (normalizeChars_cases cs).resolve_left fun hdot => h hdot.2.1

@[simp]
theorem pathPieces_normalizeChars (cs : List Char) :
    pathPieces (normalizeChars cs) = pathPieces cs := by
  rcases normalizeChars_cases cs with ⟨-, hpieces, hdot⟩ | heq
  · rw [hdot, hpieces]
    rfl
  · rw [heq, (isAnchor_pathAnchor cs).pathPieces_append,
      pathPieces_joinPieces fun _ => isPiece_of_mem]

@[simp]
theorem pathAnchor_normalizeChars (cs : List Char) :
    pathAnchor (normalizeChars cs) = pathAnchor cs := by
  rcases normalizeChars_cases cs with ⟨hanchor, -, hdot⟩ | heq
  · rw [hdot, hanchor]
    rfl
  · rw [heq, (isAnchor_pathAnchor cs).pathAnchor_append
      (head?_joinPieces_ne fun _ => isPiece_of_mem)]

/-- Paths of the same pieces have the same characters, slashes and dots apart. -/
theorem mem_of_pathPieces_eq {c : Char} {cs ds : List Char} (hslash : c ≠ '/') (hdot : c ≠ '.')
    (hpieces : pathPieces cs = pathPieces ds) (h : c ∈ cs) : c ∈ ds := by
  obtain ⟨part, hpart, hmem⟩ := exists_mem_splitAt h hslash
  have hkept : part ∈ pathPieces ds := by
    rw [← hpieces]
    refine List.mem_filter.mpr ⟨hpart, decide_eq_true ⟨List.ne_nil_of_mem hmem, ?_⟩⟩
    rintro rfl
    exact hdot (List.mem_singleton.mp hmem)
  exact (ne_and_mem_of_mem_splitAt (List.mem_filter.mp hkept).1 hmem).2

/-- Normalizing drops and adds slashes and dots, and no other character. -/
theorem mem_normalizeChars_iff {c : Char} {cs : List Char} (hslash : c ≠ '/') (hdot : c ≠ '.') :
    c ∈ normalizeChars cs ↔ c ∈ cs :=
  ⟨mem_of_pathPieces_eq hslash hdot (pathPieces_normalizeChars cs),
    mem_of_pathPieces_eq hslash hdot (pathPieces_normalizeChars cs).symm⟩

/-- A text is a path exactly if its normalized form is one. -/
theorem hasNul_normalize (path : String) : Disk.hasNul (normalize path) = Disk.hasNul path := by
  unfold Disk.hasNul normalize
  rw [String.toList_ofList, Bool.eq_iff_iff, List.contains_iff_mem, List.contains_iff_mem,
    mem_normalizeChars_iff (by decide) (by decide)]

/-- A text that normalizes to a path is a path itself. -/
theorem hasNul_eq_false_of_normalize {path : String} (h : Disk.hasNul (normalize path) = false) :
    Disk.hasNul path = false :=
  (hasNul_normalize path).symm.trans h

/-- A path and its normalized form tell the same language. -/
theorem detect_normalize (path : String) :
    Language.detect (normalize path) = Language.detect path := by
  unfold Language.detect suffixChars nameChars normalize
  rw [String.toList_ofList, pathPieces_normalizeChars]

theorem resolve_normalize (path : String) (hint : Option String) :
    Language.resolve (normalize path) hint = Language.resolve path hint := by
  unfold Language.resolve
  rw [detect_normalize]

/-! ## Paths behind paths -/

theorem pathPieces_behind (front path : List Char) :
    pathPieces (behind front path) = pathPieces front ++ pathPieces path := by
  unfold behind
  split
  · rename_i hfront
    rcases hfront with rfl | hlast
    · rfl
    · obtain ⟨before, rfl⟩ := List.getLast?_eq_some_iff.mp hlast
      rw [List.append_assoc, List.singleton_append, pathPieces_append_slash,
        pathPieces_append_slash, pathPieces_nil, List.append_nil]
  · exact pathPieces_append_slash front path

/-- What follows a path leaves its anchor alone unless slashes meet. -/
theorem pathAnchor_append {front back : List Char} (hfront : front ≠ [])
    (hback : front.getLast? = some '/' → back.head? ≠ some '/') :
    pathAnchor (front ++ back) = pathAnchor front := by
  rcases front with _ | ⟨c, _ | ⟨d, _ | ⟨e, rest⟩⟩⟩
  · exact absurd rfl hfront
  · by_cases hc : c = '/'
    · subst hc
      exact IsAnchor.root.pathAnchor_append (hback rfl)
    · simp [pathAnchor, hc]
  · by_cases hc : c = '/'
    · by_cases hd : d = '/'
      · subst hc hd
        exact IsAnchor.twoSlashes.pathAnchor_append (hback rfl)
      · subst hc
        simp [pathAnchor, hd]
    · simp [pathAnchor, hc]
  · -- Three characters settle what a path begins with.
    by_cases hc : c = '/' <;> by_cases hd : d = '/' <;> by_cases he : e = '/' <;>
      simp [pathAnchor, hc, hd, he]

/-- A relative path behind another one leaves its anchor alone. -/
theorem pathAnchor_behind {front path : List Char} (hpath : path.head? ≠ some '/') :
    pathAnchor (behind front path) = pathAnchor front := by
  unfold behind
  by_cases hnil : front = []
  · subst hnil
    rw [if_pos (Or.inl rfl), List.nil_append, pathAnchor_eq_nil_iff.mpr hpath]
    rfl
  · split
    · exact pathAnchor_append hnil fun _ => hpath
    · rename_i hends
      exact pathAnchor_append hnil fun hlast => absurd (Or.inr hlast) hends

theorem isAbsolute_iff {path : String} :
    isAbsolute path = true ↔ pathAnchor path.toList ≠ [] := by
  rw [ne_eq, pathAnchor_eq_nil_iff, not_not]
  unfold isAbsolute
  cases path.toList with
  | nil => simp
  | cons c rest => by_cases hc : c = '/' <;> simp [hc]

theorem withoutSteps_append {pieces : List (List Char)} {name : List Char}
    (h : name ≠ ['.', '.']) : withoutSteps (pieces ++ [name]) = withoutSteps pieces ++ [name] := by
  unfold withoutSteps
  rw [List.foldl_append, List.foldl_cons, List.foldl_nil, if_neg h]

/-- Taking the steps upwards leaves pieces that were there before. -/
theorem mem_of_mem_withoutSteps {pieces : List (List Char)} {piece : List Char}
    (h : piece ∈ withoutSteps pieces) : piece ∈ pieces := by
  induction pieces using List.reverseRecOn with
  | nil => cases h
  | append_singleton before last ih =>
    by_cases hlast : last = ['.', '.']
    · unfold withoutSteps at h
      rw [List.foldl_append, List.foldl_cons, List.foldl_nil, if_pos hlast] at h
      exact List.mem_append_left _ (ih (List.dropLast_subset _ h))
    · rw [withoutSteps_append hlast] at h
      rcases List.mem_append.mp h with h | h
      · exact List.mem_append_left _ (ih h)
      · exact List.mem_append_right _ h

/-- What the absolute form of a path is made from: the path itself, or the path behind the
    directory. -/
def fullChars (directory path : String) : List Char :=
  if isAbsolute path then path.toList else behind directory.toList path.toList

theorem absolute_eq (directory path : String) :
    absolute directory path = String.ofList (pathAnchor (fullChars directory path)
      ++ joinPieces (withoutSteps (pathPieces (fullChars directory path)))) := rfl

/-- A path without steps upwards takes a name behind it as its last piece. -/
theorem normalizeChars_behind {cs name : List Char} (hname : IsPiece name)
    (hstep : name ≠ ['.', '.']) :
    normalizeChars (behind (pathAnchor cs ++ joinPieces (withoutSteps (pathPieces cs))) name)
      = pathAnchor cs ++ joinPieces (withoutSteps (pathPieces cs ++ [name])) := by
  have hpieces : ∀ p ∈ withoutSteps (pathPieces cs), IsPiece p :=
    fun p hp => isPiece_of_mem (mem_of_mem_withoutSteps hp)
  have hanchor := isAnchor_pathAnchor cs
  have hbehind : pathPieces
      (behind (pathAnchor cs ++ joinPieces (withoutSteps (pathPieces cs))) name)
        = withoutSteps (pathPieces cs) ++ [name] := by
    rw [pathPieces_behind, hname.pathPieces_eq, hanchor.pathPieces_append,
      pathPieces_joinPieces hpieces]
  rw [normalizeChars_of_pieces (by simp [hbehind]), hbehind, pathAnchor_behind hname.head?_ne,
    hanchor.pathAnchor_append (head?_joinPieces_ne hpieces), withoutSteps_append hstep]

/-- A name below a directory is as absolute as the directory, and is its last piece. -/
theorem fullChars_below (workingDirectory directory : String) {name : String}
    (hname : IsPiece name.toList) :
    pathAnchor (fullChars workingDirectory (below directory name))
        = pathAnchor (fullChars workingDirectory directory)
      ∧ pathPieces (fullChars workingDirectory (below directory name))
        = pathPieces (fullChars workingDirectory directory) ++ [name.toList] := by
  have hchars : (below directory name).toList
      = normalizeChars (behind directory.toList name.toList) := String.toList_ofList
  have hanchor : pathAnchor (below directory name).toList = pathAnchor directory.toList := by
    rw [hchars, pathAnchor_normalizeChars, pathAnchor_behind hname.head?_ne]
  have hpieces : pathPieces (below directory name).toList
      = pathPieces directory.toList ++ [name.toList] := by
    rw [hchars, pathPieces_normalizeChars, pathPieces_behind, hname.pathPieces_eq]
  have habsolute : isAbsolute (below directory name) = isAbsolute directory := by
    rw [Bool.eq_iff_iff, isAbsolute_iff, isAbsolute_iff, hanchor]
  unfold fullChars
  rw [habsolute]
  by_cases h : isAbsolute directory = true
  · rw [if_pos h, if_pos h]
    exact ⟨hanchor, hpieces⟩
  · have hrelative : ∀ path : String, pathAnchor path.toList = pathAnchor directory.toList →
        path.toList.head? ≠ some '/' := by
      intro path hpath
      rw [← pathAnchor_eq_nil_iff, hpath]
      exact Classical.not_not.mp fun hrooted => h (isAbsolute_iff.mpr hrooted)
    rw [if_neg h, if_neg h, pathAnchor_behind (hrelative _ hanchor),
      pathAnchor_behind (hrelative _ rfl), pathPieces_behind, pathPieces_behind, hpieces,
      List.append_assoc]
    exact ⟨rfl, rfl⟩

/-- The absolute form of a name below a directory is that name below the absolute form of the
    directory: how the directory is spelled does not matter. -/
theorem absolute_below (workingDirectory directory : String) {name : String}
    (hname : IsPiece name.toList) (hstep : name.toList ≠ ['.', '.']) :
    absolute workingDirectory (below directory name)
      = below (absolute workingDirectory directory) name := by
  obtain ⟨hanchor, hpieces⟩ := fullChars_below workingDirectory directory hname
  rw [absolute_eq, hanchor, hpieces, ← normalizeChars_behind hname hstep]
  unfold below
  rw [absolute_eq, String.toList_ofList]

end LintBroker.Files
