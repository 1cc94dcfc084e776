/-
  LintBroker.Proofs.JsonStrict

  Which values are printed as the grammar of JSON has it.  The grammar has no names for
  the special numbers, and the printer writes them by name, so the text of a value
  follows the grammar exactly if every binary number in it is finite
  (`elementText_valueChars_iff`).  No text of the grammar has the first letter of such a
  name outside of its strings, which a scan of the characters tells.
-/
import LintBroker.Proofs.JsonRoundTrip

namespace LintBroker

open LintBroker.Number

/-! ## Finite values -/

/-- No binary number in a value is infinite or not a number. -/
inductive Datum.Finite : Datum → Prop where
  | null : Finite .null
  | bool (b : Bool) : Finite (.bool b)
  | int (n : Int) : Finite (.int n)
  | float (negative : Bool) (m : Magnitude) : Finite (.float (.finite negative m))
  | text (s : String) : Finite (.text s)
  | moment (kind : MomentKind) (iso : String) : Finite (.moment kind iso)
  | list {items : List Datum} (hitems : ∀ item ∈ items, Finite item) : Finite (.list items)
  | table {members : Members} (hmembers : ∀ p ∈ members, Finite p.2) : Finite (.table members)

namespace Datum

theorem Plain.finite {v : Datum} (h : v.Plain) : v.Finite := by
  induction h with
  | null => exact .null
  | bool b => exact .bool b
  | int n => exact .int n
  | text s => exact .text s
  | list _ ih => exact .list ih
  | table _ _ ih => exact .table ih

@[simp]
theorem finite_list_iff {items : List Datum} :
    (Datum.list items).Finite ↔ ∀ item ∈ items, item.Finite := by
  refine ⟨fun h => ?_, .list⟩
  cases h with
  | list hitems => exact hitems

@[simp]
theorem finite_table_iff {members : Members} :
    (Datum.table members).Finite ↔ ∀ p ∈ members, p.2.Finite := by
  refine ⟨fun h => ?_, .table⟩
  cases h with
  | table hmembers => exact hmembers

theorem forall_mem_cons_finite_iff {name : String} {value : Datum} {rest : Members} :
    (∀ p ∈ (name, value) :: rest, p.2.Finite) ↔ value.Finite ∧ ∀ p ∈ rest, p.2.Finite :=
  List.forall_mem_cons

end Datum

namespace Json

/-! ## Finite numbers -/

section Number

variable {sign core digits whole : List Char}

theorem numberText_places (hsign : sign = [] ∨ sign = ['-']) (hwhole : WholeRow whole)
    (hdigits : DigitRow digits) : NumberText (sign ++ (whole ++ '.' :: digits)) := by
  have h := NumberText.mk hsign hwhole (.places hdigits) .none
  rwa [List.append_nil] at h

/-- Wherever the point of a row of digits is put, a number is written. -/
theorem numberText_place (layout : FloatLayout) (hsign : sign = [] ∨ sign = ['-'])
    (hcore : Significant core) (point : Int) :
    NumberText (sign ++ layout.place core point) := by
  unfold FloatLayout.place
  split
  · split
    · exact numberText_places hsign wholeRow_zero (hcore.row.zeros_append _)
    split
    · exact numberText_places hsign (hcore.wholeRow_append_zeros _) wholeRow_zero.1
    · rename_i hsmall hlarge
      exact numberText_places hsign (hcore.wholeRow_take (by omega)) (hcore.row.drop (by omega))
  -- With a power behind the digits, the point stands behind the first of them if it stands at all.
  · have hpower : PowerText ('e' :: (if point - 1 < 0 then '-' else '+')
        :: padZeros layout.exponentWidth (natChars (point - 1).natAbs)) := by
      have hdigits : DigitRow (padZeros layout.exponentWidth (natChars (point - 1).natAbs)) :=
        (digitRow_natChars _).zeros_append _
      split
      · exact .digits (Or.inl rfl) (Or.inr (Or.inl rfl)) hdigits
      · exact .digits (Or.inl rfl) (Or.inr (Or.inr rfl)) hdigits
    obtain ⟨first, others, rfl⟩ := List.exists_cons_of_ne_nil hcore.row.1
    have hfirst := wholeRow_singleton (hcore.row.2 first (List.mem_cons_self ..))
    cases others with
    | nil => exact .mk hsign hfirst .none hpower
    | cons second others =>
      have hplaces : DigitRow (second :: others) :=
        ⟨List.cons_ne_nil _ _, fun c hc => hcore.row.2 c (List.mem_cons_of_mem _ hc)⟩
      exact .mk hsign hfirst (.places hplaces) hpower

/-- A finite number is written as the grammar has it. -/
theorem numberText_numberChars (negative : Bool) (m : Magnitude) :
    NumberText (numberLayout.chars (.finite negative m)) := by
  rw [FloatLayout.chars]
  generalize hshown : (if negative then ['-'] else []) = sign
  have hsign : sign = [] ∨ sign = ['-'] := by
    cases negative with
    | false => exact Or.inl hshown.symm
    | true => exact Or.inr hshown.symm
  by_cases hm : m.mantissa = 0
  · rw [FloatLayout.magnitude, if_pos hm]
    exact numberText_places hsign wholeRow_zero wholeRow_zero.1
  · obtain ⟨core, power, hwritten⟩ := exists_written hm
    rw [hwritten.text]
    exact numberText_place numberLayout hsign hwritten.digits _

end Number

/-! ## Finite values follow the grammar -/

/-- A finite value is printed as the grammar has it, in every layout and at every depth. -/
theorem valueText_valueChars {v : Datum} (h : v.Finite) (layout : Layout) (depth : Nat) :
    ValueText (valueChars layout depth v) := by
  induction h generalizing depth with
  | null => exact .null
  | bool b =>
    cases b with
    | false => exact .false
    | true => exact .true
  | int n =>
    simp only [valueChars]
    exact .number (numberText_intChars n)
  | float negative m =>
    simp only [valueChars]
    exact .number (numberText_numberChars negative m)
  | text s =>
    simp only [valueChars]
    exact .string (stringText_stringChars s)
  | moment kind iso =>
    simp only [valueChars]
    exact .string (stringText_stringChars iso)
  | @list items _ ih =>
    cases items with
    | nil => exact .emptyList blanks_nil
    | cons item rest =>
      have hitems := itemsText_restChars (blanks_edge layout (depth + 1)) (blanks_edge layout depth)
        (ih item (List.mem_cons_self ..) (depth + 1))
        fun v hv => ih v (List.mem_cons_of_mem _ hv) (depth + 1)
      simp only [valueChars]
      simpa only [List.append_assoc, List.cons_append] using ValueText.list hitems
  | @table members _ ih =>
    cases members with
    | nil => exact .emptyTable blanks_nil
    | cons first rest =>
      obtain ⟨name, value⟩ := first
      have hmembers := membersText_restMemberChars (blanks_edge layout (depth + 1))
        (blanks_edge layout depth) (stringText_stringChars name)
        (ih (name, value) (List.mem_cons_self ..) (depth + 1))
        fun p hp => ih p (List.mem_cons_of_mem _ hp) (depth + 1)
      simp only [valueChars]
      simpa only [List.append_assoc, List.cons_append, List.nil_append]
        using ValueText.table hmembers

/-! ## Names outside of strings -/

/-- Where a scan of a text stands: outside of its strings, in one of them, or there behind a
    backslash. -/
inductive Scan where
  | outside
  | inside
  | escaped

/-- Outside of the strings there is no first letter of the name of a special number. -/
def Nameless : Scan → List Char → Prop
  | _, [] => True
  | .outside, c :: rest =>
    if c = '"' then Nameless .inside rest else (c ≠ 'N' ∧ c ≠ 'I') ∧ Nameless .outside rest
  | .inside, c :: rest =>
    Nameless (if c = '"' then .outside else if c = '\\' then .escaped else .inside) rest
  | .escaped, _ :: rest => Nameless .inside rest

/-- A text with no string left open: with whatever behind it, it is nameless on that condition. -/
def Scans (cs : List Char) (p : Prop) : Prop :=
  ∀ rest, Nameless .outside (cs ++ rest) ↔ p ∧ Nameless .outside rest

section Scans

variable {cs ds : List Char} {p q : Prop}

theorem Scans.nameless_iff (h : Scans cs p) : Nameless .outside cs ↔ p := by
  have hend := h []
  rw [List.append_nil] at hend
  exact hend.trans (and_iff_left trivial)

theorem Scans.append (hcs : Scans cs p) (hds : Scans ds q) : Scans (cs ++ ds) (p ∧ q) := by
  intro rest
  rw [List.append_assoc, hcs, hds, and_assoc]

theorem Scans.true_append (hcs : Scans cs True) (hds : Scans ds p) : Scans (cs ++ ds) p := by
  have h := hcs.append hds
  rwa [true_and] at h

theorem Scans.append_true (hcs : Scans cs p) (hds : Scans ds True) : Scans (cs ++ ds) p := by
  have h := hcs.append hds
  rwa [and_true] at h

theorem Scans.congr (h : Scans cs p) (hpq : p ↔ q) : Scans cs q := by
  rwa [← propext hpq]

theorem Scans.of_true (h : Scans cs True) (hp : p) : Scans cs p :=
  h.congr (iff_of_true trivial hp)

/-- A character that neither opens a string nor begins a name. -/
def isMute (c : Char) : Bool := c != '"' && c != 'N' && c != 'I'

theorem scans_of_isMute (h : cs.all isMute = true) : Scans cs True := by
  intro rest
  rw [true_and]
  induction cs with
  | nil => exact Iff.rfl
  | cons c others ih =>
    rw [List.all_cons, Bool.and_eq_true] at h
    obtain ⟨hc, hothers⟩ := h
    simp only [isMute, Bool.and_eq_true, bne_iff_ne] at hc
    obtain ⟨⟨hquote, hN⟩, hI⟩ := hc
    rw [List.cons_append, Nameless, if_neg hquote, and_iff_right ⟨hN, hI⟩]
    exact ih hothers

theorem Scans.cons (hcs : Scans cs p) {c : Char} (hc : isMute c = true) : Scans (c :: cs) p := by
  have hone : [c].all isMute = true := by rw [List.all_cons, hc, List.all_nil]; rfl
  exact (scans_of_isMute hone).true_append hcs

/-! ### What the grammar has -/

theorem scans_of_blanks (h : Blanks cs) : Scans cs True := by
  refine scans_of_isMute (List.all_eq_true.mpr fun c hc => ?_)
  have hblank := h c hc
  simp only [isJsonBlank, Bool.or_eq_true, beq_iff_eq] at hblank
  rcases hblank with ((rfl | rfl) | rfl) | rfl <;> rfl

theorem isMute_of_isDigit {c : Char} (h : c.isDigit = true) : isMute c = true := by
  have hc := mem_of_isDigit h
  simp only [List.mem_cons, List.not_mem_nil, or_false] at hc
  rcases hc with rfl | rfl | rfl | rfl | rfl | rfl | rfl | rfl | rfl | rfl <;> rfl

theorem scans_of_digitRow (h : DigitRow cs) : Scans cs True :=
  scans_of_isMute (List.all_eq_true.mpr fun c hc => isMute_of_isDigit (h.2 c hc))

theorem scans_of_sign (h : cs = [] ∨ cs = ['-'] ∨ cs = ['+']) : Scans cs True := by
  rcases h with rfl | rfl | rfl <;> exact scans_of_isMute (by decide)

theorem scans_of_fractionText (h : FractionText cs) : Scans cs True := by
  cases h with
  | none => exact scans_of_isMute (by decide)
  | places hdigits => exact (scans_of_digitRow hdigits).cons (by decide)

theorem scans_of_powerText (h : PowerText cs) : Scans cs True := by
  cases h with
  | none => exact scans_of_isMute (by decide)
  | digits hletter hsign hdigits =>
    refine ((scans_of_sign hsign).true_append (scans_of_digitRow hdigits)).cons ?_
    rcases hletter with rfl | rfl <;> decide

theorem scans_of_numberText (h : NumberText cs) : Scans cs True := by
  cases h with
  | mk hsign hwhole hfraction hpower =>
    have hfront := scans_of_sign (hsign.imp_right Or.inl)
    have hbehind := (scans_of_fractionText hfraction).true_append (scans_of_powerText hpower)
    exact hfront.true_append ((scans_of_digitRow hwhole.1).true_append hbehind)

/-- Within a string, the scan goes past whatever is neither a quote nor a backslash. -/
theorem nameless_inside_append (h : ∀ c ∈ cs, c ≠ '"' ∧ c ≠ '\\') (rest : List Char) :
    Nameless .inside (cs ++ rest) ↔ Nameless .inside rest := by
  induction cs with
  | nil => exact Iff.rfl
  | cons c others ih =>
    obtain ⟨hquote, hslash⟩ := h c (List.mem_cons_self ..)
    rw [List.cons_append, Nameless, if_neg hquote, if_neg hslash]
    exact ih fun d hd => h d (List.mem_cons_of_mem _ hd)

/-- Nothing in a string ends it before its closing quote. -/
theorem nameless_inside_iff {inner : List Char} (h : QuotedText inner) (rest : List Char) :
    Nameless .inside (inner ++ '"' :: rest) ↔ Nameless .outside rest := by
  induction h with
  | done => exact Iff.rfl
  | plain hquote hslash _ _ ih =>
    rw [List.cons_append, Nameless, if_neg hquote, if_neg hslash]
    exact ih
  | letter _ _ ih => exact ih
  | @unit digits others _ hdigits _ ih =>
    -- The digits of a code unit are neither quotes nor backslashes.
    have hplain : ∀ c ∈ 'u' :: digits, c ≠ '"' ∧ c ≠ '\\' := by
      refine List.forall_mem_cons.mpr ⟨by decide, fun c hc => ?_⟩
      have hdigit := hdigits c hc
      constructor <;> rintro rfl <;> exact absurd hdigit (by decide)
    have hskip := nameless_inside_append hplain (others ++ '"' :: rest)
    rw [List.cons_append, ← List.append_assoc] at hskip
    exact hskip.trans ih

theorem scans_of_stringText (h : StringText cs) : Scans cs True := by
  cases h with
  | @mk inner hinner =>
    intro rest
    rw [true_and, ← nameless_inside_iff hinner rest, List.cons_append, List.cons_append,
      List.append_assoc, Nameless, if_pos rfl]
    rfl

end Scans

mutual

/-- No text of the grammar names a special number. -/
theorem scans_of_valueText {cs : List Char} : ValueText cs → Scans cs True
  | .null => scans_of_isMute (by decide)
  | .true => scans_of_isMute (by decide)
  | .false => scans_of_isMute (by decide)
  | .number h => scans_of_numberText h
  | .string h => scans_of_stringText h
  | .emptyList h =>
    ((scans_of_blanks h).true_append (scans_of_isMute (by decide))).cons (by decide)
  | .list h => ((scans_of_itemsText h).true_append (scans_of_isMute (by decide))).cons (by decide)
  | .emptyTable h =>
    ((scans_of_blanks h).true_append (scans_of_isMute (by decide))).cons (by decide)
  | .table h =>
    ((scans_of_membersText h).true_append (scans_of_isMute (by decide))).cons (by decide)

theorem scans_of_elementText {cs : List Char} : ElementText cs → Scans cs True
  | .mk hbefore hvalue hafter =>
    (scans_of_blanks hbefore).true_append
      ((scans_of_valueText hvalue).true_append (scans_of_blanks hafter))

theorem scans_of_itemsText {cs : List Char} : ItemsText cs → Scans cs True
  | .last h => scans_of_elementText h
  | .more h hrest =>
    (scans_of_elementText h).true_append ((scans_of_itemsText hrest).cons (by decide))

theorem scans_of_memberText {cs : List Char} : MemberText cs → Scans cs True
  | .mk hbefore hname hafter hvalue =>
    (scans_of_blanks hbefore).true_append ((scans_of_stringText hname).true_append
      ((scans_of_blanks hafter).true_append ((scans_of_elementText hvalue).cons (by decide))))

theorem scans_of_membersText {cs : List Char} : MembersText cs → Scans cs True
  | .last h => scans_of_memberText h
  | .more h hrest =>
    (scans_of_memberText h).true_append ((scans_of_membersText hrest).cons (by decide))

end

/-! ### What is printed -/

theorem scans_stringChars (s : String) : Scans (stringChars s) True :=
  scans_of_stringText (stringText_stringChars s)

theorem scans_edge (layout : Layout) (depth : Nat) : Scans (layout.edge depth) True :=
  scans_of_blanks (blanks_edge layout depth)

theorem scans_between (layout : Layout) (depth : Nat) : Scans (layout.between depth) True := by
  obtain ⟨gap, hgap, hbetween⟩ := exists_between_eq layout depth
  rw [hbetween]
  exact (scans_of_blanks hgap).cons (by decide)

/-- A number is named exactly if it is a special one. -/
theorem scans_numberChars (x : Binary64) :
    Scans (numberLayout.chars x) (Datum.float x).Finite := by
  cases x with
  | nan => exact fun rest => iff_of_false (fun h => h.1.1 rfl) fun h => nomatch h.1
  | infinite negative =>
    refine fun rest => iff_of_false (fun h => ?_) fun h => nomatch h.1
    -- The sign stands before the first letter of the name.
    cases negative with
    | false => exact h.1.2 rfl
    | true => exact h.2.1.2 rfl
  | finite negative m =>
    exact (scans_of_numberText (numberText_numberChars negative m)).of_true (.float negative m)

mutual

/-- The text of a value names a special number exactly if there is one in the value. -/
theorem scans_valueChars (layout : Layout) (depth : Nat) (v : Datum) :
    Scans (valueChars layout depth v) v.Finite := by
  cases v with
  | null =>
    simp only [valueChars]
    exact (scans_of_isMute (by decide)).of_true .null
  | bool b =>
    simp only [valueChars]
    cases b with
    | false => exact (scans_of_isMute (by decide)).of_true (.bool _)
    | true => exact (scans_of_isMute (by decide)).of_true (.bool _)
  | int n =>
    simp only [valueChars]
    exact (scans_of_numberText (numberText_intChars n)).of_true (.int n)
  | float x =>
    simp only [valueChars]
    exact scans_numberChars x
  | text s =>
    simp only [valueChars]
    exact (scans_stringChars s).of_true (.text s)
  | moment kind iso =>
    simp only [valueChars]
    exact (scans_stringChars iso).of_true (.moment kind iso)
  | list items =>
    cases items with
    | nil =>
      simp only [valueChars]
      exact (scans_of_isMute (by decide)).of_true (.list (List.forall_mem_nil _))
    | cons item rest =>
      have hitem := scans_valueChars layout (depth + 1) item
      have hrest := scans_restChars layout (depth + 1) rest
      -- From the mark that opens the list, over its items, to the mark that closes it.
      have hopen : Scans ('[' :: layout.edge (depth + 1)) True :=
        (scans_edge layout (depth + 1)).cons (by decide)
      have hitems := ((hopen.true_append hitem).append hrest).append_true (scans_edge layout depth)
      simp only [valueChars]
      exact (hitems.append_true (scans_of_isMute (by decide))).congr
        (List.forall_mem_cons.symm.trans Datum.finite_list_iff.symm)
  | table members =>
    cases members with
    | nil =>
      simp only [valueChars]
      exact (scans_of_isMute (by decide)).of_true (.table (List.forall_mem_nil _))
    | cons first rest =>
      obtain ⟨name, value⟩ := first
      have hvalue := scans_valueChars layout (depth + 1) value
      have hrest := scans_restMemberChars layout (depth + 1) rest
      have hopen : Scans ('\x7b' :: layout.edge (depth + 1)) True :=
        (scans_edge layout (depth + 1)).cons (by decide)
      have hname : Scans
          ('\x7b' :: layout.edge (depth + 1) ++ stringChars name ++ [':', ' ']) True :=
        (hopen.true_append (scans_stringChars name)).true_append (scans_of_isMute (by decide))
      have hmembers := ((hname.true_append hvalue).append hrest).append_true
        (scans_edge layout depth)
      simp only [valueChars]
      exact (hmembers.append_true (scans_of_isMute (by decide))).congr
        (Datum.forall_mem_cons_finite_iff.symm.trans Datum.finite_table_iff.symm)

theorem scans_restChars (layout : Layout) (depth : Nat) (items : List Datum) :
    Scans (restChars layout depth items) (∀ item ∈ items, item.Finite) := by
  cases items with
  | nil =>
    simp only [restChars]
    exact (scans_of_isMute (by decide)).of_true (List.forall_mem_nil _)
  | cons item rest =>
    have hitem := scans_valueChars layout depth item
    have hrest := scans_restChars layout depth rest
    simp only [restChars]
    exact (((scans_between layout depth).true_append hitem).append hrest).congr
      List.forall_mem_cons.symm

theorem scans_restMemberChars (layout : Layout) (depth : Nat) (members : Members) :
    Scans (restMemberChars layout depth members) (∀ p ∈ members, p.2.Finite) := by
  cases members with
  | nil =>
    simp only [restMemberChars]
    exact (scans_of_isMute (by decide)).of_true (List.forall_mem_nil _)
  | cons first rest =>
    obtain ⟨name, value⟩ := first
    have hvalue := scans_valueChars layout depth value
    have hrest := scans_restMemberChars layout depth rest
    have hname : Scans (layout.between depth ++ stringChars name ++ [':', ' ']) True :=
      ((scans_between layout depth).true_append (scans_stringChars name)).true_append
        (scans_of_isMute (by decide))
    simp only [restMemberChars]
    exact ((hname.true_append hvalue).append hrest).congr Datum.forall_mem_cons_finite_iff.symm

end

/-! ## Strict texts -/

/-- The text of a value, with blanks around it, follows the grammar exactly if the value is
    finite. -/
theorem elementText_valueChars_iff (layout : Layout) (depth : Nat) {v : Datum}
    {before after : List Char} (hbefore : Blanks before) (hafter : Blanks after) :
    ElementText (before ++ (valueChars layout depth v ++ after)) ↔ v.Finite := by
  constructor
  · intro h
    have hscans := (scans_of_blanks hbefore).true_append
      ((scans_valueChars layout depth v).append_true (scans_of_blanks hafter))
    exact hscans.nameless_iff.mp ((scans_of_elementText h).nameless_iff.mpr trivial)
  · intro h
    exact .mk hbefore (valueText_valueChars h layout depth) hafter

theorem ne_nil_of_valueText {cs : List Char} (h : ValueText cs) : cs ≠ [] := by
  cases h with
  | number h =>
    cases h with
    | mk _ hwhole _ _ =>
      exact List.append_ne_nil_of_right_ne_nil _ (List.append_ne_nil_of_left_ne_nil hwhole.1.1 _)
  | string h =>
    cases h with
    | mk _ => exact List.cons_ne_nil _ _
  | _ => exact List.cons_ne_nil _ _

/-- Nothing at all is no text of the grammar. -/
theorem not_elementText_nil : ¬ ElementText [] := by
  -- The text is a name of its own here, since no constructor is at the empty one.
  generalize hcs : [] = cs
  rintro ⟨_, hvalue, _⟩
  obtain ⟨-, hrest⟩ := List.append_eq_nil_iff.mp hcs.symm
  exact ne_nil_of_valueText hvalue (List.append_eq_nil_iff.mp hrest).1

end Json

end LintBroker
