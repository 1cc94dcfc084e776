/-
  LintBroker.Text.Split

  Cutting a text at every place of a single character.
-/

namespace LintBroker.Text

/-- The parts of a text between the places where `mark` stands; there is one more than places. -/
def splitAt (mark : Char) : List Char → List (List Char)
  | [] => [[]]
  | c :: rest =>
    if c = mark then [] :: splitAt mark rest
    else
      match splitAt mark rest with
      | [] => [[c]]
      | part :: parts => (c :: part) :: parts

/-- There is always a part. -/
theorem splitAt_ne_nil (mark : Char) (cs : List Char) : splitAt mark cs ≠ [] := by
  cases cs with
  | nil => simp [splitAt]
  | cons c rest =>
    simp only [splitAt]
    split
    · simp
    · split <;> simp

/-- A text without the mark is its only part. -/
theorem splitAt_of_not_mem {mark : Char} {cs : List Char} (h : mark ∉ cs) :
    splitAt mark cs = [cs] := by
  induction cs with
  | nil => rfl
  | cons c rest ih =>
    have hc : c ≠ mark := fun hc => h (hc ▸ List.mem_cons_self ..)
    rw [splitAt, if_neg hc, ih fun hrest => h (List.mem_cons_of_mem c hrest)]

/-- A mark between two texts keeps their parts apart. -/
theorem splitAt_append (mark : Char) (front back : List Char) :
    splitAt mark (front ++ mark :: back) = splitAt mark front ++ splitAt mark back := by
  induction front with
  | nil => simp [splitAt]
  | cons c rest ih =>
    by_cases hc : c = mark
    · simp [splitAt, hc, ih]
    · simp only [List.cons_append, splitAt, if_neg hc, ih]
      cases hparts : splitAt mark rest with
      | nil => exact absurd hparts (splitAt_ne_nil mark rest)
      | cons part parts => rfl

/-- What is in a text and is not the mark is in one of its parts. -/
theorem exists_mem_splitAt {mark c : Char} {cs : List Char} (h : c ∈ cs) (hc : c ≠ mark) :
    ∃ part ∈ splitAt mark cs, c ∈ part := by
  induction cs with
  | nil => cases h
  | cons d rest ih =>
    by_cases hd : d = mark
    · have hrest : c ∈ rest := (List.mem_cons.mp h).resolve_left fun hcd => hc (hcd.trans hd)
      obtain ⟨part, hpart, hmem⟩ := ih hrest
      exact ⟨part, by simp [splitAt, hd, hpart], hmem⟩
    · simp only [splitAt, if_neg hd]
      cases hparts : splitAt mark rest with
      | nil => exact absurd hparts (splitAt_ne_nil mark rest)
      | cons first parts =>
        rcases List.mem_cons.mp h with rfl | hrest
        · exact ⟨c :: first, List.mem_cons_self .., List.mem_cons_self ..⟩
        · obtain ⟨part, hpart, hmem⟩ := ih hrest
          rw [hparts] at hpart
          rcases List.mem_cons.mp hpart with rfl | hpart
          · exact ⟨d :: part, List.mem_cons_self .., List.mem_cons_of_mem d hmem⟩
          · exact ⟨part, List.mem_cons_of_mem _ hpart, hmem⟩

/-- A part has no mark in it, and is made of characters of the text. -/
theorem ne_and_mem_of_mem_splitAt {mark c : Char} {cs part : List Char}
    (hpart : part ∈ splitAt mark cs) (h : c ∈ part) : c ≠ mark ∧ c ∈ cs := by
  induction cs generalizing part with
  | nil =>
    rw [splitAt, List.mem_singleton] at hpart
    rw [hpart] at h
    cases h
  | cons d rest ih =>
    by_cases hd : d = mark
    · rw [splitAt, if_pos hd] at hpart
      rcases List.mem_cons.mp hpart with rfl | hpart
      · cases h
      · exact ⟨(ih hpart h).1, List.mem_cons_of_mem d (ih hpart h).2⟩
    · simp only [splitAt, if_neg hd] at hpart
      cases hparts : splitAt mark rest with
      | nil => exact absurd hparts (splitAt_ne_nil mark rest)
      | cons first parts =>
        rw [hparts] at hpart ih
        rcases List.mem_cons.mp hpart with rfl | hpart
        · rcases List.mem_cons.mp h with rfl | h
          · exact ⟨hd, List.mem_cons_self ..⟩
          · have hfirst := ih (List.mem_cons_self ..) h
            exact ⟨hfirst.1, List.mem_cons_of_mem d hfirst.2⟩
        · have hother := ih (List.mem_cons_of_mem _ hpart) h
          exact ⟨hother.1, List.mem_cons_of_mem d hother.2⟩

end LintBroker.Text
