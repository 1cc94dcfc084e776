/-
  LintBroker.Proofs.JsonText

  The text of a value in JSON.  A string is read back exactly, with what follows it
  left over, so no two strings begin one text (`stringChars_append_inj`).  Every
  character of a text is a line feed or a visible one, so nothing in it steers a
  terminal, and on one line there is no line feed either.
-/
import LintBroker.Json.Printer
import LintBroker.Json.Reader
import Mathlib.Data.List.Basic
import Mathlib.Tactic.IntervalCases

namespace LintBroker.Json

open LintBroker.Number

/-! ## Hexadecimal digits -/

theorem hexValue?_digitChar {d : Nat} (h : d < 16) : hexValue? d.digitChar = some d := by
  interval_cases d <;> decide

/-- A unit of sixteen bits is written by four digits. -/
theorem hexChars_four {n : Nat} (h : n < 0x10000) :
    hexChars 4 n = [(n / 0x1000).digitChar, (n / 0x100 % 16).digitChar, (n / 0x10 % 16).digitChar,
      (n % 16).digitChar] := by
  unfold hexChars padZeros
  by_cases h1 : n < 16
  · rw [Nat.toDigits_of_lt_base h1]
    have ha : n / 0x1000 = 0 := by omega
    have hb : n / 0x100 = 0 := by omega
    have hc : n / 0x10 = 0 := by omega
    rw [ha, hb, hc, Nat.mod_eq_of_lt h1]
    rfl
  · rw [Nat.toDigits_of_base_le (by decide) (Nat.not_lt.mp h1)]
    by_cases h2 : n / 16 < 16
    · rw [Nat.toDigits_of_lt_base h2]
      have ha : n / 0x1000 = 0 := by omega
      have hb : n / 0x100 = 0 := by omega
      rw [ha, hb, Nat.mod_eq_of_lt h2]
      rfl
    · rw [Nat.toDigits_of_base_le (by decide) (Nat.not_lt.mp h2), Nat.div_div_eq_div_mul]
      by_cases h3 : n / 0x100 < 16
      · rw [Nat.toDigits_of_lt_base h3]
        have ha : n / 0x1000 = 0 := by omega
        rw [ha, Nat.mod_eq_of_lt h3]
        rfl
      · have h4 : n / 0x1000 < 16 := by omega
        rw [Nat.toDigits_of_base_le (by decide) (Nat.not_lt.mp h3), Nat.div_div_eq_div_mul,
          Nat.toDigits_of_lt_base h4]
        rfl

/-! ## Strings -/

/-- The marks that the text of a character is read as. -/
def marksOf (c : Char) : List Mark :=
  let n := c.toNat
  if 0x20 ≤ n ∧ n ≤ 0x7e ∨ c = '\n' ∨ c = '\r' ∨ c = '\t' ∨ n = 0x08 ∨ n = 0x0c then [.char c]
  else if n < 0x10000 then [.unit n]
  else [.unit (0xd800 + (n - 0x10000) / 0x400), .unit (0xdc00 + (n - 0x10000) % 0x400)]

/-- An escape of a unit is read as that unit. -/
theorem stringMarks_unitEscape {n : Nat} (h : n < 0x10000) (rest : List Char) :
    stringMarks (unitEscape n ++ rest)
      = (stringMarks rest).map fun p => (.unit n :: p.1, p.2) := by
  have hunit : unit? (n / 0x1000).digitChar (n / 0x100 % 16).digitChar (n / 0x10 % 16).digitChar
      (n % 16).digitChar = some n := by
    unfold unit?
    rw [hexValue?_digitChar (by omega), hexValue?_digitChar (by omega),
      hexValue?_digitChar (by omega), hexValue?_digitChar (by omega)]
    have hsum : ((n / 0x1000 * 16 + n / 0x100 % 16) * 16 + n / 0x10 % 16) * 16 + n % 16 = n := by
      omega
    simp [hsum]
  unfold unitEscape
  rw [hexChars_four h]
  simp only [List.cons_append, List.nil_append, stringMarks, hunit]

/-- A character that stands for itself is read as itself. -/
theorem stringMarks_cons {c : Char} (hquote : c ≠ '"') (hslash : c ≠ '\\')
    (hshown : 0x20 ≤ c.toNat) (rest : List Char) :
    stringMarks (c :: rest) = (stringMarks rest).map fun p => (.char c :: p.1, p.2) := by
  have hplain : ¬ ((decide (c.toNat < 0x20) || c == '\\') = true) := by
    simp only [Bool.or_eq_true, decide_eq_true_eq, beq_iff_eq, not_or]
    exact ⟨Nat.not_lt.mpr hshown, hslash⟩
  rw [stringMarks, if_neg hplain]
  · exact hquote
  · intro a b c d rest heq
    exact absurd heq hslash
  · intro d rest heq
    exact absurd heq hslash

/-- The text of a character is read as its marks. -/
theorem stringMarks_escapeChar (c : Char) (rest : List Char) :
    stringMarks (escapeChar c ++ rest)
      = (stringMarks rest).map fun p => (marksOf c ++ p.1, p.2) := by
  have hvalid : c.toNat < 0xd800 ∨ 0xdfff < c.toNat ∧ c.toNat < 0x110000 := c.valid
  by_cases hquote : c = '"'
  · subst hquote
    rfl
  by_cases hslash : c = '\\'
  · subst hslash
    rfl
  by_cases hshown : 0x20 ≤ c.toNat ∧ c.toNat ≤ 0x7e
  · have hmarks : marksOf c = [.char c] := if_pos (Or.inl hshown)
    have htext : escapeChar c = [c] := by
      simp only [escapeChar, if_neg hquote, if_neg hslash, if_pos hshown]
    rw [hmarks, htext]
    exact stringMarks_cons hquote hslash hshown.1 rest
  by_cases hshort : c = '\n' ∨ c = '\r' ∨ c = '\t' ∨ c = Char.ofNat 0x08 ∨ c = Char.ofNat 0x0c
  · rcases hshort with rfl | rfl | rfl | rfl | rfl <;> rfl
  obtain ⟨hfeed, hreturn, htab, hback, hform⟩ : c ≠ '\n' ∧ c ≠ '\r' ∧ c ≠ '\t' ∧ c.toNat ≠ 0x08
      ∧ c.toNat ≠ 0x0c := by
    have hnumber : ∀ n, c.toNat = n → c = Char.ofNat n := fun n h => by rw [← h, Char.ofNat_toNat]
    simp only [not_or] at hshort
    exact ⟨hshort.1, hshort.2.1, hshort.2.2.1, fun h => hshort.2.2.2.1 (hnumber _ h),
      fun h => hshort.2.2.2.2 (hnumber _ h)⟩
  -- All that is left is written by units, by one or by a pair.
  by_cases hfirst : c.toNat < 0x10000
  · have htext : escapeChar c = unitEscape c.toNat := by
      simp only [escapeChar, if_neg hquote, if_neg hslash, if_neg hshown, if_neg hfeed,
        if_neg hreturn, if_neg htab, if_neg hback, if_neg hform, if_pos hfirst]
    have hmarks : marksOf c = [.unit c.toNat] := by
      simp only [marksOf, hshown, hfeed, hreturn, htab, hback, hform, or_self, if_false,
        if_pos hfirst]
    rw [htext, hmarks]
    exact stringMarks_unitEscape hfirst rest
  · have htext : escapeChar c = unitEscape (0xd800 + (c.toNat - 0x10000) / 0x400)
        ++ unitEscape (0xdc00 + (c.toNat - 0x10000) % 0x400) := by
      simp only [escapeChar, if_neg hquote, if_neg hslash, if_neg hshown, if_neg hfeed,
        if_neg hreturn, if_neg htab, if_neg hback, if_neg hform, if_neg hfirst]
    have hmarks : marksOf c = [.unit (0xd800 + (c.toNat - 0x10000) / 0x400),
        .unit (0xdc00 + (c.toNat - 0x10000) % 0x400)] := by
      simp only [marksOf, hshown, hfeed, hreturn, htab, hback, hform, or_self, if_false,
        if_neg hfirst]
    rw [htext, hmarks, List.append_assoc, stringMarks_unitEscape (by omega),
      stringMarks_unitEscape (by omega)]
    cases stringMarks rest <;> rfl

/-- A unit that begins no pair is joined to nothing behind it. -/
theorem joinMarks_unit {n : Nat} (h : isHighUnit n = false) (rest : List Mark) :
    joinMarks (.unit n :: rest) = unitChar n :: joinMarks rest := by
  rcases rest with _ | ⟨char | low, others⟩
  · rfl
  · rfl
  · rw [joinMarks, h]
    rfl

/-- The marks of a character are joined to that character. -/
theorem joinMarks_marksOf (c : Char) (rest : List Mark) :
    joinMarks (marksOf c ++ rest) = c :: joinMarks rest := by
  have hvalid : c.toNat < 0xd800 ∨ 0xdfff < c.toNat ∧ c.toNat < 0x110000 := c.valid
  unfold marksOf
  simp only
  split
  · rfl
  · split
    · rename_i hfirst
      have hhigh : isHighUnit c.toNat = false := by
        simp only [isHighUnit, Bool.and_eq_false_iff, decide_eq_false_iff_not]
        omega
      have hlow : isLowUnit c.toNat = false := by
        simp only [isLowUnit, Bool.and_eq_false_iff, decide_eq_false_iff_not]
        omega
      rw [List.singleton_append, joinMarks_unit hhigh]
      simp only [unitChar, hhigh, hlow, Bool.or_self, Bool.false_eq_true, if_false,
        Char.ofNat_toNat]
    · rename_i hbeyond
      have hpair : (isHighUnit (0xd800 + (c.toNat - 0x10000) / 0x400)
          && isLowUnit (0xdc00 + (c.toNat - 0x10000) % 0x400)) = true := by
        simp only [isHighUnit, isLowUnit, Bool.and_eq_true, decide_eq_true_eq]
        omega
      have hnumber : 0x10000 + (0xd800 + (c.toNat - 0x10000) / 0x400 - 0xd800) * 0x400
          + (0xdc00 + (c.toNat - 0x10000) % 0x400 - 0xdc00) = c.toNat := by
        omega
      simp only [List.cons_append, List.nil_append, joinMarks, hpair, if_true, hnumber,
        Char.ofNat_toNat]

theorem joinMarks_flatMap (cs : List Char) : joinMarks (cs.flatMap marksOf) = cs := by
  induction cs with
  | nil => rfl
  | cons c others ih => rw [List.flatMap_cons, joinMarks_marksOf, ih]

/-- A string is read back exactly, and what follows it is left over. -/
theorem stringBody_flatMap (cs rest : List Char) :
    stringBody (cs.flatMap escapeChar ++ '"' :: rest) = .ok (cs, rest) := by
  have hmarks : stringMarks (cs.flatMap escapeChar ++ '"' :: rest)
      = .ok (cs.flatMap marksOf, rest) := by
    induction cs with
    | nil => rfl
    | cons c others ih =>
      rw [List.flatMap_cons, List.append_assoc, stringMarks_escapeChar, ih]
      rfl
  unfold stringBody
  rw [hmarks]
  exact congrArg (fun joined => Except.ok (joined, rest)) (joinMarks_flatMap cs)

/-- Texts that begin with strings begin with the same string if they are the same. -/
theorem stringChars_append_inj {s t : String} {a b : List Char}
    (h : stringChars s ++ a = stringChars t ++ b) : s = t ∧ a = b := by
  unfold stringChars at h
  simp only [List.cons_append, List.append_assoc, List.nil_append, List.cons.injEq,
    true_and] at h
  have hread := congrArg stringBody h
  rw [stringBody_flatMap, stringBody_flatMap, Except.ok.injEq, Prod.mk.injEq] at hread
  exact ⟨String.toList_inj.mp hread.1, hread.2⟩

/-! ## Characters that are shown -/

/-- A character of ASCII that is no control. -/
def IsVisible (c : Char) : Prop := 0x20 ≤ c.toNat ∧ c.toNat ≤ 0x7e

instance (c : Char) : Decidable (IsVisible c) := inferInstanceAs (Decidable (_ ∧ _))

/-- A line feed, or a character of ASCII that is no control. -/
def IsShown (c : Char) : Prop := c = '\n' ∨ 0x20 ≤ c.toNat ∧ c.toNat ≤ 0x7e

instance (c : Char) : Decidable (IsShown c) := inferInstanceAs (Decidable (_ ∨ _))

/-- A fixed text is visible as soon as each of its characters is. -/
theorem isVisible_of_mem_of_all {cs : List Char} (hcs : (cs.all fun c => decide (IsVisible c)) = true)
    {c : Char} (h : c ∈ cs) : IsVisible c :=
  of_decide_eq_true (List.all_eq_true.mp hcs c h)

theorem isVisible_digitChar (d : Nat) : IsVisible d.digitChar := by
  by_cases h : d < 16
  · interval_cases d <;> decide
  · have hnone : d.digitChar = '*' := by
      unfold Nat.digitChar
      repeat rw [if_neg (by omega)]
    rw [hnone]
    decide

theorem isVisible_of_mem_toDigits {base n : Nat} (hbase : 1 < base) {c : Char}
    (h : c ∈ Nat.toDigits base n) : IsVisible c := by
  induction n using Nat.strongRecOn with
  | ind n ih =>
    rw [Nat.toDigits_eq_if hbase] at h
    split at h
    · rw [List.mem_singleton.mp h]
      exact isVisible_digitChar n
    · rename_i hle
      rcases List.mem_append.mp h with h | h
      · exact ih _ (Nat.div_lt_self (by omega) hbase) h
      · rw [List.mem_singleton.mp h]
        exact isVisible_digitChar _

theorem isVisible_of_mem_padZeros {width : Nat} {cs : List Char} (hcs : ∀ c ∈ cs, IsVisible c)
    {c : Char} (h : c ∈ padZeros width cs) : IsVisible c := by
  rcases List.mem_append.mp h with h | h
  · rw [List.eq_of_mem_replicate h]
    decide
  · exact hcs c h

theorem isVisible_of_mem_natChars {n : Nat} {c : Char} (h : c ∈ natChars n) : IsVisible c :=
  isVisible_of_mem_toDigits (by decide) h

theorem isVisible_of_mem_intChars {n : Int} {c : Char} (h : c ∈ intChars n) : IsVisible c := by
  cases n with
  | ofNat n => exact isVisible_of_mem_natChars h
  | negSucc n =>
    rcases List.mem_cons.mp h with rfl | h
    · decide
    · exact isVisible_of_mem_natChars h

theorem isVisible_of_mem_unitEscape {n : Nat} {c : Char} (h : c ∈ unitEscape n) : IsVisible c := by
  rcases List.mem_cons.mp h with rfl | h
  · decide
  · rcases List.mem_cons.mp h with rfl | h
    · decide
    · exact isVisible_of_mem_padZeros (fun _ => isVisible_of_mem_toDigits (by decide)) h

theorem isVisible_of_mem_escapeChar {c d : Char} (h : d ∈ escapeChar c) : IsVisible d := by
  have hpair : ∀ letter : Char, IsVisible letter → d ∈ ['\\', letter] → IsVisible d := by
    intro letter hletter hmem
    rcases List.mem_cons.mp hmem with rfl | hmem
    · decide
    · exact List.mem_singleton.mp hmem ▸ hletter
  unfold escapeChar at h
  simp only at h
  split at h
  · exact hpair _ (by decide) h
  split at h
  · exact hpair _ (by decide) h
  split at h
  · rename_i hshown
    exact List.mem_singleton.mp h ▸ hshown
  split at h
  · exact hpair _ (by decide) h
  split at h
  · exact hpair _ (by decide) h
  split at h
  · exact hpair _ (by decide) h
  split at h
  · exact hpair _ (by decide) h
  split at h
  · exact hpair _ (by decide) h
  split at h
  · exact isVisible_of_mem_unitEscape h
  · rcases List.mem_append.mp h with h | h
    · exact isVisible_of_mem_unitEscape h
    · exact isVisible_of_mem_unitEscape h

theorem isVisible_of_mem_stringChars {s : String} {c : Char} (h : c ∈ stringChars s) :
    IsVisible c := by
  rcases List.mem_append.mp h with h | h
  · rcases List.mem_cons.mp h with rfl | h
    · decide
    · obtain ⟨d, -, hd⟩ := List.mem_flatMap.mp h
      exact isVisible_of_mem_escapeChar hd
  · rw [List.mem_singleton.mp h]
    decide

/-- Digits with a point among them, or with an exponent behind them, are visible. -/
theorem isVisible_of_mem_place {layout : FloatLayout} {digits : List Char} {point : Int}
    (hdigits : ∀ c ∈ digits, IsVisible c) {c : Char} (h : c ∈ layout.place digits point) :
    IsVisible c := by
  have hzeros : ∀ {n : Nat}, c ∈ List.replicate n '0' → IsVisible c := fun hmem => by
    rw [List.eq_of_mem_replicate hmem]
    decide
  have hsign : ∀ b : Prop, [Decidable b] → IsVisible (if b then '-' else '+') := fun b _ => by
    split <;> decide
  unfold FloatLayout.place at h
  split at h
  · split at h
    · rcases List.mem_cons.mp h with rfl | h
      · decide
      rcases List.mem_cons.mp h with rfl | h
      · decide
      rcases List.mem_append.mp h with h | h
      · exact hzeros h
      · exact hdigits c h
    split at h
    · rcases List.mem_append.mp h with h | h
      · rcases List.mem_append.mp h with h | h
        · exact hdigits c h
        · exact hzeros h
      · have hends : c ∈ ['.', '0'] := h
        exact isVisible_of_mem_of_all (by decide) hends
    · rcases List.mem_append.mp h with h | h
      · exact hdigits c (List.mem_of_mem_take h)
      rcases List.mem_cons.mp h with rfl | h
      · decide
      · exact hdigits c (List.mem_of_mem_drop h)
  · simp only at h
    rcases List.mem_append.mp h with h | h
    · split at h
      · rcases List.mem_cons.mp h with rfl | h
        · exact hdigits c (List.mem_cons_self ..)
        rcases List.mem_cons.mp h with rfl | h
        · decide
        · exact hdigits c (List.mem_cons_of_mem _ h)
      · exact hdigits c h
    · rcases List.mem_cons.mp h with rfl | h
      · decide
      rcases List.mem_cons.mp h with rfl | h
      · exact hsign _
      · exact isVisible_of_mem_padZeros (fun _ => isVisible_of_mem_natChars) h

theorem isVisible_of_mem_numberChars {x : Binary64} {c : Char} (h : c ∈ numberLayout.chars x) :
    IsVisible c := by
  have hsign : ∀ {negative : Bool}, c ∈ (if negative then ['-'] else []) → IsVisible c := by
    intro negative hmem
    cases negative with
    | false => cases hmem
    | true => exact List.mem_singleton.mp hmem ▸ by decide
  cases x with
  | nan =>
    have hname : c ∈ numberLayout.notANumber.toList := h
    exact isVisible_of_mem_of_all (by decide) hname
  | infinite negative =>
    rcases List.mem_append.mp h with h | h
    · exact hsign h
    · have hname : c ∈ numberLayout.infinity.toList := h
      exact isVisible_of_mem_of_all (by decide) hname
  | finite negative m =>
    rcases List.mem_append.mp h with h | h
    · exact hsign h
    unfold FloatLayout.magnitude at h
    split at h
    · have hzero : c ∈ ['0', '.', '0'] := h
      exact isVisible_of_mem_of_all (by decide) hzero
    · refine isVisible_of_mem_place (fun d hd => ?_) h
      unfold withoutTrailingZeros at hd
      have hin := (List.dropWhile_sublist _).subset (List.mem_reverse.mp hd)
      exact isVisible_of_mem_natChars (List.mem_reverse.mp hin)

/-! ## Values -/

section Layout

/-- A character that is written in a layout: a visible one, or a line feed unless all is on one
    line. -/
def Layout.Writes (layout : Layout) (c : Char) : Prop :=
  layout ≠ .inline ∧ c = '\n' ∨ IsVisible c

variable {layout : Layout} {depth : Nat} {c : Char}

theorem writes_of_mem_edge (h : c ∈ layout.edge depth) : layout.Writes c := by
  cases layout with
  | inline => cases h
  | indented width =>
    rcases List.mem_cons.mp h with rfl | h
    · exact Or.inl ⟨fun hinline => (nomatch hinline), rfl⟩
    · rw [List.eq_of_mem_replicate h]
      exact Or.inr (by decide)

theorem writes_of_mem_between (h : c ∈ layout.between depth) : layout.Writes c := by
  cases layout with
  | inline =>
    have hcomma : c ∈ [',', ' '] := h
    exact Or.inr (isVisible_of_mem_of_all (by decide) hcomma)
  | indented width =>
    rcases List.mem_cons.mp h with rfl | h
    · exact Or.inr (by decide)
    · have hedge : c ∈ (Layout.indented width).edge depth := h
      exact writes_of_mem_edge hedge

end Layout

mutual

/-- The text of a value is written in characters of its layout. -/
theorem writes_of_mem_valueChars (layout : Layout) (depth : Nat) (v : Datum) :
    ∀ c ∈ valueChars layout depth v, layout.Writes c := by
  cases v with
  | null =>
    simp only [valueChars]
    exact fun c h => Or.inr (isVisible_of_mem_of_all (by decide) h)
  | bool b =>
    simp only [valueChars]
    cases b with
    | false => exact fun c h => Or.inr (isVisible_of_mem_of_all (by decide) h)
    | true => exact fun c h => Or.inr (isVisible_of_mem_of_all (by decide) h)
  | int n =>
    simp only [valueChars]
    exact fun c h => Or.inr (isVisible_of_mem_intChars h)
  | float x =>
    simp only [valueChars]
    exact fun c h => Or.inr (isVisible_of_mem_numberChars h)
  | text s =>
    simp only [valueChars]
    exact fun c h => Or.inr (isVisible_of_mem_stringChars h)
  | moment kind iso =>
    simp only [valueChars]
    exact fun c h => Or.inr (isVisible_of_mem_stringChars h)
  | list items =>
    cases items with
    | nil =>
      simp only [valueChars]
      exact fun c h => Or.inr (isVisible_of_mem_of_all (by decide) h)
    | cons item rest =>
      have hitem := writes_of_mem_valueChars layout (depth + 1) item
      have hrest := writes_of_mem_restChars layout (depth + 1) rest
      intro c h
      simp only [valueChars, List.mem_append, List.mem_cons, List.not_mem_nil, or_false] at h
      rcases h with ((((rfl | h) | h) | h) | h) | rfl
      · exact Or.inr (by decide)
      · exact writes_of_mem_edge h
      · exact hitem c h
      · exact hrest c h
      · exact writes_of_mem_edge h
      · exact Or.inr (by decide)
  | table members =>
    cases members with
    | nil =>
      simp only [valueChars]
      exact fun c h => Or.inr (isVisible_of_mem_of_all (by decide) h)
    | cons first rest =>
      obtain ⟨name, value⟩ := first
      have hvalue := writes_of_mem_valueChars layout (depth + 1) value
      have hrest := writes_of_mem_restMemberChars layout (depth + 1) rest
      intro c h
      simp only [valueChars, List.mem_append, List.mem_cons, List.not_mem_nil, or_false] at h
      rcases h with ((((((rfl | h) | h) | rfl | rfl) | h) | h) | h) | rfl
      · exact Or.inr (by decide)
      · exact writes_of_mem_edge h
      · exact Or.inr (isVisible_of_mem_stringChars h)
      · exact Or.inr (by decide)
      · exact Or.inr (by decide)
      · exact hvalue c h
      · exact hrest c h
      · exact writes_of_mem_edge h
      · exact Or.inr (by decide)

theorem writes_of_mem_restChars (layout : Layout) (depth : Nat) (items : List Datum) :
    ∀ c ∈ restChars layout depth items, layout.Writes c := by
  cases items with
  | nil => simp only [restChars]; exact fun c h => nomatch h
  | cons item rest =>
    have hitem := writes_of_mem_valueChars layout depth item
    have hrest := writes_of_mem_restChars layout depth rest
    intro c h
    simp only [restChars, List.mem_append] at h
    rcases h with (h | h) | h
    · exact writes_of_mem_between h
    · exact hitem c h
    · exact hrest c h

theorem writes_of_mem_restMemberChars (layout : Layout) (depth : Nat) (members : Members) :
    ∀ c ∈ restMemberChars layout depth members, layout.Writes c := by
  cases members with
  | nil => simp only [restMemberChars]; exact fun c h => nomatch h
  | cons first rest =>
    obtain ⟨name, value⟩ := first
    have hvalue := writes_of_mem_valueChars layout depth value
    have hrest := writes_of_mem_restMemberChars layout depth rest
    intro c h
    simp only [restMemberChars, List.mem_append, List.mem_cons, List.not_mem_nil, or_false] at h
    rcases h with (((h | h) | rfl | rfl) | h) | h
    · exact writes_of_mem_between h
    · exact Or.inr (isVisible_of_mem_stringChars h)
    · exact Or.inr (by decide)
    · exact Or.inr (by decide)
    · exact hvalue c h
    · exact hrest c h

end

/-- The text of a value is shown as it is. -/
theorem isShown_of_mem_valueChars (layout : Layout) (depth : Nat) (v : Datum) :
    ∀ c ∈ valueChars layout depth v, IsShown c :=
  fun c h => (writes_of_mem_valueChars layout depth v c h).imp_left And.right

end LintBroker.Json
