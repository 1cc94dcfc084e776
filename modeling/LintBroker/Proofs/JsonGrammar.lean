/-
  LintBroker.Proofs.JsonGrammar

  The grammar of JSON over rows of characters, without the names of special numbers that
  readers put up with.  Integers and strings are printed as it has them, and so are lists
  and tables of what follows it, in every layout: the blanks of a layout stand only where
  the grammar has room for them.
-/
import LintBroker.Proofs.JsonText

namespace LintBroker

open LintBroker.Number

/-! ## Plain values -/

/-- A value that JSON has a form of its own for: no binary number, no point in time, and no name
    twice in a table. -/
inductive Datum.Plain : Datum → Prop where
  | null : Plain .null
  | bool (b : Bool) : Plain (.bool b)
  | int (n : Int) : Plain (.int n)
  | text (s : String) : Plain (.text s)
  | list {items : List Datum} (hitems : ∀ item ∈ items, Plain item) : Plain (.list items)
  | table {members : Members} (hnames : (members.map Prod.fst).Nodup)
      (hmembers : ∀ p ∈ members, Plain p.2) : Plain (.table members)

namespace Json

/-! ## Grammar -/

/-- Nothing but blanks. -/
def Blanks (cs : List Char) : Prop := ∀ c ∈ cs, isJsonBlank c = true

/-- Digits, at least one. -/
def DigitRow (cs : List Char) : Prop := cs ≠ [] ∧ ∀ c ∈ cs, c.isDigit = true

/-- Digits of which the first is a zero only if it is the only one. -/
def WholeRow (cs : List Char) : Prop := DigitRow cs ∧ (cs.head? = some '0' → cs = ['0'])

/-- The places behind the point, if there is one. -/
inductive FractionText : List Char → Prop where
  | none : FractionText []
  | places {digits : List Char} (h : DigitRow digits) : FractionText ('.' :: digits)

/-- The power of ten, if there is one. -/
inductive PowerText : List Char → Prop where
  | none : PowerText []
  | digits {letter : Char} {sign digits : List Char} (hletter : letter = 'e' ∨ letter = 'E')
      (hsign : sign = [] ∨ sign = ['-'] ∨ sign = ['+']) (hdigits : DigitRow digits) :
      PowerText (letter :: (sign ++ digits))

/-- A number. -/
inductive NumberText : List Char → Prop where
  | mk {sign whole fraction power : List Char} (hsign : sign = [] ∨ sign = ['-'])
      (hwhole : WholeRow whole) (hfraction : FractionText fraction) (hpower : PowerText power) :
      NumberText (sign ++ (whole ++ (fraction ++ power)))

/-- What may stand between the quotes of a string: characters for themselves, escapes of one letter
    and escapes of four hexadecimal digits. -/
inductive QuotedText : List Char → Prop where
  | done : QuotedText []
  | plain {c : Char} {rest : List Char} (hquote : c ≠ '"') (hslash : c ≠ '\\')
      (hcontrol : 0x20 ≤ c.toNat) (hrest : QuotedText rest) : QuotedText (c :: rest)
  | letter {c : Char} {rest : List Char} (hc : c ∈ ['"', '\\', '/', 'b', 'f', 'n', 'r', 't'])
      (hrest : QuotedText rest) : QuotedText ('\\' :: c :: rest)
  | unit {digits rest : List Char} (hlength : digits.length = 4)
      (hdigits : ∀ c ∈ digits, (hexValue? c).isSome = true) (hrest : QuotedText rest) :
      QuotedText ('\\' :: 'u' :: (digits ++ rest))

/-- A string. -/
inductive StringText : List Char → Prop where
  | mk {inner : List Char} (h : QuotedText inner) : StringText ('"' :: inner ++ ['"'])

mutual

/-- A value. -/
inductive ValueText : List Char → Prop where
  | null : ValueText ['n', 'u', 'l', 'l']
  | true : ValueText ['t', 'r', 'u', 'e']
  | false : ValueText ['f', 'a', 'l', 's', 'e']
  | number {cs : List Char} (h : NumberText cs) : ValueText cs
  | string {cs : List Char} (h : StringText cs) : ValueText cs
  | emptyList {blanks : List Char} (h : Blanks blanks) : ValueText ('[' :: (blanks ++ [']']))
  | list {items : List Char} (h : ItemsText items) : ValueText ('[' :: (items ++ [']']))
  | emptyTable {blanks : List Char} (h : Blanks blanks) :
      ValueText ('\x7b' :: (blanks ++ ['\x7d']))
  | table {members : List Char} (h : MembersText members) :
      ValueText ('\x7b' :: (members ++ ['\x7d']))

/-- A value with blanks around it. -/
inductive ElementText : List Char → Prop where
  | mk {before value after : List Char} (hbefore : Blanks before) (hvalue : ValueText value)
      (hafter : Blanks after) : ElementText (before ++ (value ++ after))

/-- Items with commas between them. -/
inductive ItemsText : List Char → Prop where
  | last {item : List Char} (h : ElementText item) : ItemsText item
  | more {item rest : List Char} (h : ElementText item) (hrest : ItemsText rest) :
      ItemsText (item ++ ',' :: rest)

/-- A name with blanks around it, a colon and a value. -/
inductive MemberText : List Char → Prop where
  | mk {before name after value : List Char} (hbefore : Blanks before) (hname : StringText name)
      (hafter : Blanks after) (hvalue : ElementText value) :
      MemberText (before ++ (name ++ (after ++ ':' :: value)))

/-- Members with commas between them. -/
inductive MembersText : List Char → Prop where
  | last {member : List Char} (h : MemberText member) : MembersText member
  | more {member rest : List Char} (h : MemberText member) (hrest : MembersText rest) :
      MembersText (member ++ ',' :: rest)

end

/-! ## Numbers -/

theorem isDigit_of_mem_natChars {n : Nat} {c : Char} (h : c ∈ natChars n) : c.isDigit = true :=
  Nat.isDigit_of_mem_toDigits (by decide) (by decide) h

/-- Only zero is written with a zero in front. -/
theorem natChars_of_head?_eq_zero {n : Nat} (h : (natChars n).head? = some '0') :
    natChars n = ['0'] := by
  induction n using Nat.strongRecOn with
  | ind n ih =>
    unfold natChars at h ih ⊢
    rw [Nat.toDigits_eq_if (by decide)] at h
    split at h
    · rename_i hsmall
      have hzero : n = 0 := by
        interval_cases n <;> first | rfl | exact absurd h (by decide)
      subst hzero
      rfl
    · rename_i hlarge
      have hquotient := ih (n / 10) (by omega) (by
        rwa [List.head?_append_of_ne_nil _ Nat.toDigits_ne_nil] at h)
      have hvalue := Nat.ofDigitChars_ten_toDigits (n := n / 10)
      rw [hquotient] at hvalue
      have hzero : n / 10 = 0 := hvalue.symm
      omega

theorem digitRow_natChars (n : Nat) : DigitRow (natChars n) :=
  ⟨Nat.toDigits_ne_nil, fun _ => isDigit_of_mem_natChars⟩

theorem wholeRow_natChars (n : Nat) : WholeRow (natChars n) :=
  ⟨digitRow_natChars n, natChars_of_head?_eq_zero⟩

/-- An integer is written as a number. -/
theorem numberText_intChars (n : Int) : NumberText (intChars n) := by
  cases n with
  | ofNat n =>
    have h := NumberText.mk (Or.inl rfl) (wholeRow_natChars n) .none .none
    rwa [List.nil_append, List.append_nil, List.append_nil] at h
  | negSucc n =>
    have h := NumberText.mk (Or.inr rfl) (wholeRow_natChars (n + 1)) .none .none
    rwa [List.append_nil, List.append_nil] at h

/-! ## Strings -/

theorem quotedText_unitEscape {n : Nat} (hn : n < 0x10000) {rest : List Char}
    (h : QuotedText rest) : QuotedText (unitEscape n ++ rest) := by
  unfold unitEscape
  rw [hexChars_four hn]
  refine .unit rfl (fun c hc => ?_) h
  simp only [List.mem_cons, List.not_mem_nil, or_false] at hc
  rcases hc with rfl | rfl | rfl | rfl
  · rw [hexValue?_digitChar (by omega)]
    rfl
  · rw [hexValue?_digitChar (Nat.mod_lt _ (by decide))]
    rfl
  · rw [hexValue?_digitChar (Nat.mod_lt _ (by decide))]
    rfl
  · rw [hexValue?_digitChar (Nat.mod_lt _ (by decide))]
    rfl

theorem quotedText_escapeChar (c : Char) {rest : List Char} (h : QuotedText rest) :
    QuotedText (escapeChar c ++ rest) := by
  have hvalid : c.toNat < 0xd800 ∨ 0xdfff < c.toNat ∧ c.toNat < 0x110000 := c.valid
  unfold escapeChar
  simp only
  split
  · exact .letter (by decide) h
  rename_i hquote
  split
  · exact .letter (by decide) h
  rename_i hslash
  split
  · rename_i hshown
    exact .plain hquote hslash hshown.1 h
  split
  · exact .letter (by decide) h
  split
  · exact .letter (by decide) h
  split
  · exact .letter (by decide) h
  split
  · exact .letter (by decide) h
  split
  · exact .letter (by decide) h
  split
  · rename_i hfirst
    exact quotedText_unitEscape hfirst h
  · rw [List.append_assoc]
    exact quotedText_unitEscape (by omega) (quotedText_unitEscape (by omega) h)

theorem stringText_stringChars (s : String) : StringText (stringChars s) := by
  have hinner : ∀ cs : List Char, QuotedText (cs.flatMap escapeChar) := by
    intro cs
    induction cs with
    | nil => exact .done
    | cons c rest ih =>
      rw [List.flatMap_cons]
      exact quotedText_escapeChar c ih
  exact .mk (hinner s.toList)

/-! ## Values -/

theorem blanks_nil : Blanks [] := List.forall_mem_nil _

theorem blanks_space : Blanks [' '] := by
  intro c h
  rw [List.mem_singleton.mp h]
  rfl

theorem blanks_edge (layout : Layout) (depth : Nat) : Blanks (layout.edge depth) := by
  intro c h
  cases layout with
  | inline => cases h
  | indented width =>
    rcases List.mem_cons.mp h with rfl | h
    · rfl
    · rw [List.eq_of_mem_replicate h]
      rfl

/-- What stands between two items is a comma and blanks. -/
theorem exists_between_eq (layout : Layout) (depth : Nat) :
    ∃ gap, Blanks gap ∧ layout.between depth = ',' :: gap := by
  cases layout with
  | inline => exact ⟨[' '], blanks_space, rfl⟩
  | indented width => exact ⟨_, blanks_edge (.indented width) depth, rfl⟩

variable {layout : Layout} {depth : Nat}

/-- Items as they are printed follow the grammar as soon as each of them does. -/
theorem itemsText_restChars {before after item : List Char} {rest : List Datum}
    (hbefore : Blanks before) (hafter : Blanks after) (hitem : ValueText item)
    (hrest : ∀ v ∈ rest, ValueText (valueChars layout depth v)) :
    ItemsText (before ++ (item ++ (restChars layout depth rest ++ after))) := by
  induction rest generalizing before item with
  | nil =>
    simp only [restChars, List.nil_append]
    exact .last (.mk hbefore hitem hafter)
  | cons next others ih =>
    obtain ⟨gap, hgap, hbetween⟩ := exists_between_eq layout depth
    have hothers := ih hgap (hrest next (List.mem_cons_self ..))
      fun v hv => hrest v (List.mem_cons_of_mem _ hv)
    have h := ItemsText.more (.mk hbefore hitem blanks_nil) hothers
    simp only [restChars, hbetween]
    simpa only [List.append_assoc, List.cons_append, List.nil_append] using h

theorem memberText_colon {before name value : List Char} (hbefore : Blanks before)
    (hname : StringText name) (hvalue : ElementText (' ' :: value)) :
    MemberText (before ++ (name ++ ':' :: ' ' :: value)) := by
  have h := MemberText.mk hbefore hname blanks_nil hvalue
  rwa [List.nil_append] at h

/-- Members as they are printed follow the grammar as soon as the value of each does. -/
theorem membersText_restMemberChars {before after name value : List Char} {rest : Members}
    (hbefore : Blanks before) (hafter : Blanks after) (hname : StringText name)
    (hvalue : ValueText value) (hrest : ∀ p ∈ rest, ValueText (valueChars layout depth p.2)) :
    MembersText (before ++ (name ++ ':' :: ' ' ::
      (value ++ (restMemberChars layout depth rest ++ after)))) := by
  induction rest generalizing before name value with
  | nil =>
    simp only [restMemberChars, List.nil_append]
    exact .last (memberText_colon hbefore hname (.mk blanks_space hvalue hafter))
  | cons next others ih =>
    obtain ⟨nextName, nextValue⟩ := next
    obtain ⟨gap, hgap, hbetween⟩ := exists_between_eq layout depth
    have hothers := ih hgap (stringText_stringChars nextName)
      (hrest (nextName, nextValue) (List.mem_cons_self ..))
      fun p hp => hrest p (List.mem_cons_of_mem _ hp)
    have hmember : MemberText (before ++ (name ++ ':' :: ' ' :: (value ++ []))) :=
      memberText_colon hbefore hname (.mk blanks_space hvalue blanks_nil)
    have h := MembersText.more hmember hothers
    simp only [restMemberChars, hbetween]
    simpa only [List.append_assoc, List.cons_append, List.nil_append, List.append_nil] using h

end Json

end LintBroker
