/-
  LintBroker.Proofs.PathLanguage

  The language that a path tells.  It is told by the last component alone, which has to be
  a stem and behind it a suffix of the table in whatever case of its ASCII letters
  (`Tells`).  Lower case goes over all scripts, but a character beyond ASCII becomes a
  letter of ASCII only if it is the sign for kelvin, and no suffix has a `k`
  (`lower_eq_iff`).  Together: `detect_settles`.
-/
import LintBroker.Proofs.Path

namespace LintBroker

open LintBroker.Files LintBroker.Text

/-! ## Lower case -/

namespace Text

/-- What holds of the characters with the first 128 codes holds of all in ASCII. -/
theorem forall_ascii {P : Char → Prop} (h : ∀ n < 0x80, P (Char.ofNat n)) {c : Char}
    (hc : c.toNat < 0x80) : P c := by
  have hcode := h c.toNat hc
  rwa [Char.ofNat_toNat] at hcode

theorem lowerChar_of_ascii {c : Char} (h : c.toNat < 0x80) : lowerChar c = c.toLower :=
  forall_ascii (P := fun c => lowerChar c = c.toLower) (by decide +kernel) h

/-- A run of capitals is in ASCII, or it is the sign for kelvin, or all its lower case is beyond
    ASCII. -/
theorem caseRuns_cases : ∀ run ∈ caseRuns, run.last < 0x80
    ∨ run.first = 0x212a ∧ run.last = 0x212a ∧ run.shift = -0x20bf
    ∨ 0x80 ≤ run.first + run.shift ∧ run.last + run.shift < 0xd800
    ∨ 0xdfff < run.first + run.shift ∧ run.last + run.shift < 0x110000 := by
  decide +kernel

/-- What becomes a character of ASCII is one, or it becomes a `k`. -/
theorem ascii_of_lowerChar {c : Char} (h : (lowerChar c).toNat < 0x80) (hk : lowerChar c ≠ 'k') :
    c.toNat < 0x80 := by
  have hvalue : ∀ n : Nat, n.isValidChar → (Char.ofNat n).toNat = n := by
    intro n hn
    rw [Char.ofNat, dif_pos hn]
    rfl
  unfold lowerChar at h hk
  split at h
  · rename_i run hrun
    have hin := List.find?_some hrun
    simp only [Bool.and_eq_true, decide_eq_true_eq] at hin
    obtain ⟨⟨hfirst, hlast⟩, -⟩ := hin
    rw [hrun] at hk
    rcases caseRuns_cases run (List.mem_of_find?_eq_some hrun) with hascii | hkelvin | hlow | hhigh
    · omega
    -- The sign for kelvin is the whole of its run.
    · obtain ⟨hfrom, hto, hshift⟩ := hkelvin
      have hletter : (c.toNat + run.shift).toNat = 0x6b := by omega
      simp only [hletter] at hk
      exact absurd rfl hk
    -- The lower case is beyond ASCII, on either side of the surrogates.
    · rw [hvalue _ (Or.inl (by omega))] at h
      omega
    · rw [hvalue _ (Or.inr (by omega))] at h
      omega
  · exact h

theorem lowerAfter_of_ascii {cs : List Char} (h : ∀ c ∈ cs, c.toNat < 0x80) (before : List Char) :
    lowerAfter before cs = cs.map Char.toLower := by
  induction cs generalizing before with
  | nil => rfl
  | cons c rest ih =>
    have hc := h c (List.mem_cons_self ..)
    have hdotted : c.toNat ≠ 0x130 := by omega
    have hsigma : c.toNat ≠ 0x3a3 := by omega
    simp only [lowerAfter, if_neg hdotted, if_neg hsigma, lowerChar_of_ascii hc,
      ih (fun d hd => h d (List.mem_cons_of_mem c hd)), List.map_cons, List.singleton_append]

/-- A text whose lower case is in ASCII and has no `k` is in ASCII. -/
theorem ascii_of_lowerAfter {cs before : List Char}
    (h : ∀ c ∈ lowerAfter before cs, c.toNat < 0x80 ∧ c ≠ 'k') : ∀ c ∈ cs, c.toNat < 0x80 := by
  induction cs generalizing before with
  | nil => exact List.forall_mem_nil _
  | cons c rest ih =>
    simp only [lowerAfter, List.forall_mem_append] at h
    obtain ⟨hhere, hrest⟩ := h
    refine List.forall_mem_cons.mpr ⟨?_, ih hrest⟩
    split at hhere
    · -- The dot of the capital I is a mark of its own.
      have hmark := (hhere (Char.ofNat 0x307) (by simp)).1
      exact absurd hmark (by decide)
    split at hhere
    · split at hhere
      · exact absurd (hhere _ (List.mem_singleton_self _)).1 (by decide)
      · exact absurd (hhere _ (List.mem_singleton_self _)).1 (by decide)
    · obtain ⟨hascii, hk⟩ := hhere _ (List.mem_singleton_self _)
      exact ascii_of_lowerChar hascii hk

/-- Lower case of ASCII leaves each character beyond it alone. -/
theorem ascii_of_toLower {c : Char} (h : c.toLower.toNat < 0x80) : c.toNat < 0x80 := by
  unfold Char.toLower at h
  split at h
  · rename_i hcapital
    exact Nat.lt_of_le_of_lt hcapital.2 (show 'Z'.toNat < 0x80 by decide)
  · exact h

/-- For a text in ASCII without a `k`, lower case of all scripts is that of ASCII. -/
theorem lower_eq_iff {text lowered : String}
    (h : ∀ c ∈ lowered.toList, c.toNat < 0x80 ∧ c ≠ 'k') :
    lower text = lowered ↔ text.toList.map Char.toLower = lowered.toList := by
  have hchars : lower text = lowered ↔ lowerAfter [] text.toList = lowered.toList := by
    rw [lower, ← String.toList_inj, String.toList_ofList]
  rw [hchars]
  constructor
  · intro heq
    rw [← heq] at h
    rw [← lowerAfter_of_ascii (ascii_of_lowerAfter h) [], heq]
  · intro heq
    rw [← heq] at h
    rw [← heq]
    refine lowerAfter_of_ascii (fun c hc => ascii_of_toLower ?_) []
    exact (h _ (List.mem_map_of_mem hc)).1

end Text

/-! ## Suffixes -/

namespace Files

/-- A name is its suffix with a stem in front, if it has one. -/
theorem exists_stem_of_nameSuffix {name : List Char} (h : nameSuffix name ≠ []) :
    ∃ stem, stem ≠ [] ∧ name = stem ++ nameSuffix name := by
  -- Read from behind, what is left of the name begins with its last dot, if it has one.
  have hparts : name.reverse.dropWhile (· != '.') = [] ∨
      ∃ others, name.reverse.dropWhile (· != '.') = '.' :: others := by
    cases hdrop : name.reverse.dropWhile (· != '.') with
    | nil => exact Or.inl rfl
    | cons c others =>
      have hc := List.head_dropWhile_not (p := (· != '.')) (l := name.reverse) (by simp [hdrop])
      simp only [hdrop, List.head_cons, bne_eq_false_iff_eq] at hc
      exact Or.inr ⟨others, by rw [hc]⟩
  have hname := congrArg List.reverse
    (List.takeWhile_append_dropWhile (p := (· != '.')) (l := name.reverse))
  rw [List.reverse_append, List.reverse_reverse] at hname
  unfold nameSuffix at h ⊢
  simp only at h ⊢
  split at h
  · rename_i hkept
    rw [if_pos hkept]
    rcases hparts with hnone | ⟨others, hothers⟩
    -- Without a dot, what stands behind it would be the whole name, and that is not kept.
    · rw [hnone, List.reverse_nil, List.nil_append] at hname
      rw [hname] at hkept
      exact absurd hkept.1 (Nat.lt_irrefl _)
    · rw [hothers, List.reverse_cons, List.append_assoc, List.singleton_append] at hname
      refine ⟨others.reverse, ?_, hname.symm⟩
      rintro hnil
      have hlength := congrArg List.length hname
      rw [hnil, List.nil_append, List.length_cons] at hlength
      omega
  · exact absurd rfl h

/-- What stands behind the last dot of a name is its suffix, with the dot, unless nothing stands
    there or before the dot. -/
theorem nameSuffix_append {stem ending : List Char} (hstem : stem ≠ []) (hending : ending ≠ [])
    (hdot : '.' ∉ ending) : nameSuffix (stem ++ '.' :: ending) = '.' :: ending := by
  have hafter : ((stem ++ '.' :: ending).reverse.takeWhile (· != '.')).reverse = ending := by
    have hplain : ∀ c ∈ ending.reverse, (c != '.') = true := by
      intro c hc
      rw [bne_iff_ne]
      rintro rfl
      exact hdot (List.mem_reverse.mp hc)
    rw [List.reverse_append, List.reverse_cons, List.append_assoc,
      List.takeWhile_append_of_pos hplain, List.singleton_append,
      List.takeWhile_cons_of_neg (by simp), List.append_nil, List.reverse_reverse]
  have hlength := List.length_pos_of_ne_nil hstem
  unfold nameSuffix
  simp only [hafter]
  rw [if_pos]
  simp only [List.length_append, List.length_cons]
  exact ⟨by omega, by omega, hending⟩

end Files

namespace Language

/-! ## The table -/

/-- A suffix of the table: a dot and letters of ASCII, none of them a `k`. -/
theorem exists_letters_of_mem {suffix language : String} (h : (suffix, language) ∈ ofSuffix) :
    (∃ letters, suffix.toList = '.' :: letters ∧ letters ≠ [] ∧ '.' ∉ letters)
      ∧ (∀ c ∈ suffix.toList, c.toNat < 0x80 ∧ c ≠ 'k')
      ∧ ofSuffix.lookup suffix = some language ∧ language ≠ unknown := by
  have hall : ∀ entry ∈ ofSuffix, entry.1.toList = '.' :: entry.1.toList.tail
      ∧ entry.1.toList.tail ≠ [] ∧ '.' ∉ entry.1.toList.tail
      ∧ (entry.1.toList.all fun c => c.toNat < 0x80 && c != 'k') = true
      ∧ ofSuffix.lookup entry.1 = some entry.2 ∧ entry.2 ≠ unknown := by
    decide +kernel
  obtain ⟨hdot, hletters, hother, hascii, hlookup⟩ := hall _ h
  refine ⟨⟨_, hdot, hletters, hother⟩, fun c hc => ?_, hlookup⟩
  have hletter := List.all_eq_true.mp hascii c hc
  rwa [Bool.and_eq_true, decide_eq_true_eq, bne_iff_ne] at hletter

/-! ## Last components -/

/-- The last component of a path, if it has one. -/
def lastComponent? (path : String) : Option (List Char) := (pathPieces path.toList).getLast?

/-- A component tells a language: it is a stem, which is not empty, and a suffix of the language, in
    whatever case of its ASCII letters. -/
def Tells (component : List Char) (language : String) : Prop :=
  ∃ stem ending suffix, component = stem ++ ending ∧ stem ≠ []
    ∧ (suffix, language) ∈ ofSuffix ∧ ending.map Char.toLower = suffix.toList

/-- Lower case of ASCII makes a dot of nothing but a dot. -/
theorem eq_dot_of_toLower {c : Char} (h : c.toLower = '.') : c = '.' := by
  have hascii : c.toNat < 0x80 := ascii_of_toLower (h ▸ (by decide))
  exact forall_ascii (P := fun c => c.toLower = '.' → c = '.') (by decide +kernel) hascii h

/-- A component tells the language of its suffix in lower case, and no other. -/
theorem tells_iff {component : List Char} {language : String} :
    Tells component language
      ↔ ofSuffix.lookup (lower (String.ofList (nameSuffix component))) = some language := by
  constructor
  -- The ending is a dot and letters, so it is what the component has for its suffix.
  · rintro ⟨stem, ending, suffix, rfl, hstem, hmem, hending⟩
    obtain ⟨⟨letters, hsuffix, hletters, hdot⟩, hascii, hlookup, -⟩ := exists_letters_of_mem hmem
    have hparts := hending
    rw [hsuffix, List.map_eq_cons_iff] at hparts
    obtain ⟨c, after, rfl, hc, hafter⟩ := hparts
    obtain rfl := eq_dot_of_toLower hc
    have hnone : after ≠ [] := by
      rintro rfl
      exact hletters hafter.symm
    have hplain : '.' ∉ after := by
      intro hin
      rw [← hafter] at hdot
      exact hdot (List.mem_map.mpr ⟨'.', hin, by decide⟩)
    rw [nameSuffix_append hstem hnone hplain, (lower_eq_iff hascii).mpr]
    · exact hlookup
    · rw [String.toList_ofList, hending]
  -- A suffix in the table is not empty, so there is a stem in front of it.
  · intro h
    obtain ⟨before, after, htable, -⟩ := List.lookup_eq_some_iff.mp h
    have hmem : (lower (String.ofList (nameSuffix component)), language) ∈ ofSuffix := by
      rw [htable]
      exact List.mem_append_right before (List.mem_cons_self ..)
    obtain ⟨⟨letters, hsuffix, -, -⟩, hascii, -⟩ := exists_letters_of_mem hmem
    have hlower := (lower_eq_iff hascii).mp rfl
    rw [String.toList_ofList] at hlower
    have hsome : nameSuffix component ≠ [] := by
      rw [hsuffix] at hlower
      intro hnil
      rw [hnil] at hlower
      cases hlower
    obtain ⟨stem, hstem, hname⟩ := exists_stem_of_nameSuffix hsome
    exact ⟨stem, _, _, hname, hstem, hmem, hlower⟩

/-- A path tells the language of its last component; without one it tells none. -/
theorem detect_eq (path : String) :
    detect path = ((lastComponent? path).bind fun component =>
      ofSuffix.lookup (lower (String.ofList (nameSuffix component)))).getD unknown := by
  unfold detect suffixChars nameChars
  show _ = (((pathPieces path.toList).getLast?).bind _).getD unknown
  cases (pathPieces path.toList).getLast? with
  | none => rfl
  | some component => rfl

/-- Paths with the same last component tell the same language. -/
theorem detect_congr {path other : String} (h : lastComponent? other = lastComponent? path) :
    detect other = detect path := by
  rw [detect_eq, detect_eq, h]

theorem detect_of_tells {path : String} {component : List Char} {language : String}
    (hlast : lastComponent? path = some component) (htells : Tells component language) :
    detect path = language := by
  rw [detect_eq, hlast, Option.bind_some, tells_iff.mp htells, Option.getD_some]

/-- The language is known exactly if the last component tells one. -/
theorem detect_ne_unknown_iff {path : String} :
    detect path ≠ unknown
      ↔ ∃ component language, lastComponent? path = some component ∧ Tells component language := by
  constructor
  · intro hknown
    rw [detect_eq] at hknown
    cases hlast : lastComponent? path with
    | none =>
      rw [hlast] at hknown
      exact absurd rfl hknown
    | some component =>
      rw [hlast, Option.bind_some] at hknown
      cases hlookup : ofSuffix.lookup (lower (String.ofList (nameSuffix component))) with
      | none =>
        rw [hlookup] at hknown
        exact absurd rfl hknown
      | some language => exact ⟨component, language, rfl, tells_iff.mpr hlookup⟩
  · rintro ⟨component, language, hlast, htells⟩
    rw [detect_of_tells hlast htells]
    obtain ⟨stem, ending, suffix, -, -, hmem, -⟩ := htells
    exact (exists_letters_of_mem hmem).2.2.2

/-- What stands behind a slash has the last component, unless it has none at all. -/
theorem lastComponent?_append_slash (front back : String) :
    lastComponent? (front ++ "/" ++ back) = (lastComponent? back).or (lastComponent? front) := by
  unfold lastComponent?
  rw [String.append_assoc, String.toList_append, String.toList_append,
    show "/".toList ++ back.toList = '/' :: back.toList from rfl, pathPieces_append_slash,
    List.getLast?_append]

/-- Empty and single-dot pieces are no components. -/
theorem lastComponent?_gap {gap : String} (h : gap ∈ ["", "."]) : lastComponent? gap = none := by
  simp only [List.mem_cons, List.not_mem_nil, or_false] at h
  rcases h with rfl | rfl
  · rfl
  · decide +kernel

/-- The language of any path is told by its last component, cut at slashes, with empty and
    single-dot pieces left out: it is known exactly if that component is a stem and a suffix of the
    table up to the case of ASCII letters, and then it is the language of the suffix.  So it is the
    same in every directory, with slashes and single-dot pieces put anywhere between components, and
    for the normalized path; and no text with a character beyond ASCII has a suffix of the table for
    its lower case. -/
theorem detect_settles (path : String) :
    (detect path ≠ unknown ↔
        ∃ component language, lastComponent? path = some component ∧ Tells component language)
      ∧ (∀ component language, lastComponent? path = some component → Tells component language →
        detect path = language)
      ∧ (∀ directory, lastComponent? path ≠ none → detect (directory ++ "/" ++ path) = detect path)
      ∧ (∀ gap ∈ ["", "."],
        detect (path ++ "/" ++ gap) = detect path ∧ detect (gap ++ "/" ++ path) = detect path
          ∧ ∀ front back, path = front ++ "/" ++ back →
            detect (front ++ "/" ++ gap ++ "/" ++ back) = detect path)
      ∧ detect (normalize path) = detect path
      ∧ ∀ text suffix language, (suffix, language) ∈ ofSuffix → lower text = suffix →
        ∀ c ∈ text.toList, c.toNat < 0x80 := by
  refine ⟨detect_ne_unknown_iff, fun _ _ => detect_of_tells, fun directory hsome => ?directory,
    fun gap hgap => ?gaps, detect_normalize path, ?ascii⟩
  case directory =>
    refine detect_congr ?_
    rw [lastComponent?_append_slash, Option.or_of_isSome (Option.isSome_iff_ne_none.mpr hsome)]
  case gaps =>
    -- A gap has no last component, so that of the other side of the slash stays.
    have hnone := lastComponent?_gap hgap
    refine ⟨detect_congr ?_, detect_congr ?_, ?_⟩
    · rw [lastComponent?_append_slash, hnone, Option.none_or]
    · rw [lastComponent?_append_slash, hnone, Option.or_none]
    · rintro front back rfl
      refine detect_congr ?_
      rw [lastComponent?_append_slash, lastComponent?_append_slash, hnone, Option.none_or,
        lastComponent?_append_slash]
  case ascii =>
    rintro text suffix language hmem rfl
    have hascii := (exists_letters_of_mem hmem).2.1
    rw [lower, String.toList_ofList] at hascii
    exact ascii_of_lowerAfter hascii

example : detect "src/./..JS//" = "javascript" := by decide +kernel

end Language

end LintBroker
