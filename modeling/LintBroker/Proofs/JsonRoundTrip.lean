/-
  LintBroker.Proofs.JsonRoundTrip

  Reading what was printed.  The reader takes the text of a value back to that value and
  leaves what follows it, in every layout (`ReadsAs`), as long as it is a value of JSON
  (`Datum.Lossless`).  Its limit on digits is the only thing between the two: whatever is
  read keeps to the limit (`Datum.Limited`), so a plain value is read back exactly if its
  integers do (`read_indentedText_iff`).
-/
import LintBroker.Proofs.JsonNumber
import LintBroker.Proofs.Trace

namespace LintBroker

open LintBroker.Number LintBroker.Text

/-! ## Rows of digits -/

/-- No integer in a value has more digits than the limit. -/
inductive Datum.Limited (limit : Nat) : Datum → Prop where
  | null : Limited limit .null
  | bool (b : Bool) : Limited limit (.bool b)
  | int {n : Int} (h : n.natAbs < 10 ^ limit) : Limited limit (.int n)
  | float (x : Binary64) : Limited limit (.float x)
  | text (s : String) : Limited limit (.text s)
  | list {items : List Datum} (h : ∀ item ∈ items, Limited limit item) :
      Limited limit (.list items)
  | table {members : Members} (h : ∀ p ∈ members, Limited limit p.2) :
      Limited limit (.table members)
  | moment (kind : MomentKind) (iso : String) : Limited limit (.moment kind iso)

/-- A value of JSON, the special numbers among them: no point in time, and no name twice in a
    table. -/
inductive Datum.Lossless : Datum → Prop where
  | null : Lossless .null
  | bool (b : Bool) : Lossless (.bool b)
  | int (n : Int) : Lossless (.int n)
  | float (x : Binary64) : Lossless (.float x)
  | text (s : String) : Lossless (.text s)
  | list {items : List Datum} (hitems : ∀ item ∈ items, Lossless item) : Lossless (.list items)
  | table {members : Members} (hnames : (members.map Prod.fst).Nodup)
      (hmembers : ∀ p ∈ members, Lossless p.2) : Lossless (.table members)

theorem Datum.Plain.lossless {v : Datum} (h : v.Plain) : v.Lossless := by
  induction h with
  | null => exact .null
  | bool b => exact .bool b
  | int n => exact .int n
  | text s => exact .text s
  | list _ ih => exact .list ih
  | table hnames _ ih => exact .table hnames ih

namespace Json

/-! ## Digits of JSON -/

/-- A text that a value in a list can begin with. -/
def Opens (cs : List Char) : Prop :=
  ∃ c rest, cs = c :: rest ∧ isJsonBlank c = false ∧ c ≠ ']'

theorem opens_of_isDigit {c : Char} (h : c.isDigit = true) : isJsonBlank c = false ∧ c ≠ ']' := by
  have hc := mem_of_isDigit h
  simp only [List.mem_cons, List.not_mem_nil, or_false] at hc
  rcases hc with rfl | rfl | rfl | rfl | rfl | rfl | rfl | rfl | rfl | rfl <;> decide

theorem opens_cons {c : Char} (h : isJsonBlank c = false ∧ c ≠ ']') (rest : List Char) :
    Opens (c :: rest) :=
  ⟨c, rest, rfl, h⟩

theorem opens_intChars (n : Int) : Opens (intChars n) := by
  cases n with
  | ofNat n =>
    obtain ⟨c, rest, hdigits, hc⟩ := exists_natChars_eq_cons n
    exact ⟨c, rest, hdigits, opens_of_isDigit hc⟩
  | negSucc n => exact opens_cons (by decide) _

theorem opens_numberChars (x : Binary64) : Opens (numberLayout.chars x) := by
  cases x with
  | nan => exact opens_cons (by decide) _
  | infinite negative =>
    cases negative with
    | false => exact opens_cons (by decide) _
    | true => exact opens_cons (by decide) _
  | finite negative m =>
    cases negative with
    | false =>
      obtain ⟨c, rest, hdigits, hc⟩ := exists_magnitude_eq_cons numberLayout m
      exact ⟨c, rest, hdigits, opens_of_isDigit hc⟩
    | true => exact opens_cons (by decide) _

theorem opens_valueChars (v : Datum) (layout : Layout) (depth : Nat) :
    Opens (valueChars layout depth v) := by
  cases v with
  | null => exact opens_cons (by decide) _
  | bool b =>
    cases b with
    | false => exact opens_cons (by decide) _
    | true => exact opens_cons (by decide) _
  | int n => exact opens_intChars n
  | float x => exact opens_numberChars x
  | text s => exact opens_cons (by decide) _
  | moment kind iso => exact opens_cons (by decide) _
  | list items =>
    cases items with
    | nil => exact opens_cons (by decide) _
    | cons item rest => exact opens_cons (by decide) _
  | table members =>
    cases members with
    | nil => exact opens_cons (by decide) _
    | cons first rest => exact opens_cons (by decide) _

theorem skipBlanks_append {blanks : List Char} (h : Blanks blanks) (cs : List Char) :
    skipBlanks (blanks ++ cs) = skipBlanks cs :=
  List.dropWhile_append_of_pos h

theorem skipBlanks_cons {c : Char} (h : isJsonBlank c = false) (rest : List Char) :
    skipBlanks (c :: rest) = c :: rest := by
  rw [skipBlanks, List.dropWhile_cons_of_neg (by rw [h]; decide)]

/-- Blanks before a value are skipped, and the value is not. -/
theorem skipBlanks_append_of_opens {blanks cs : List Char} (hblanks : Blanks blanks)
    (h : Opens cs) (rest : List Char) : skipBlanks (blanks ++ (cs ++ rest)) = cs ++ rest := by
  obtain ⟨c, others, rfl, hc, -⟩ := h
  rw [skipBlanks_append hblanks, List.cons_append, skipBlanks_cons hc]

/-! ## Reading what is printed -/

variable {limit : Nat} {layout : Layout} {depth : Nat}

theorem readsAs_stringChars (s : String) : ReadsAs limit (stringChars s) (.text s) := by
  intro fuel rest hfuel _
  obtain ⟨fuel, rfl, -⟩ := exists_fuel hfuel
  have hbody := stringBody_flatMap s.toList rest
  simp only [stringChars, List.cons_append, List.append_assoc, List.nil_append, value, hbody]
  show Except.ok (Datum.text (String.ofList s.toList), rest) = _
  rw [String.ofList_toList]

/-- Blanks behind a value do not go on with a number, whatever it is that follows them. -/
theorem stops_append_of_blanks {after : List Char} (h : Blanks after) {rest : List Char}
    (hrest : Stops rest) : Stops (after ++ rest) := by
  intro c hc
  cases after with
  | nil => exact hrest c hc
  | cons d others =>
    cases hc
    have hblank := h c (List.mem_cons_self ..)
    simp only [isJsonBlank, Bool.or_eq_true, beq_iff_eq] at hblank
    rcases hblank with ((rfl | rfl) | rfl) | rfl <;> decide

/-- The items of a printed list are read back, if each of them is. -/
theorem items_restChars {after : List Char} (hafter : Blanks after) {item : Datum}
    {rest : List Datum}
    (hread : ∀ v ∈ item :: rest, ReadsAs limit (valueChars layout depth v) v) {fuel : Nat}
    (hfuel : (valueChars layout depth item ++ (restChars layout depth rest ++ after)).length < fuel)
    (tail : List Char) :
    items (some limit) (fuel + 1)
        (valueChars layout depth item ++ (restChars layout depth rest ++ (after ++ ']' :: tail)))
      = .ok (item :: rest, tail) := by
  induction rest generalizing item fuel with
  | nil =>
    have hitem := hread item (List.mem_cons_self ..) fuel (after ++ ']' :: tail)
      (by rw [List.length_append] at hfuel; omega)
      (stops_append_of_blanks hafter (stops_cons (by decide) _))
    have hclose : skipBlanks (after ++ ']' :: tail) = ']' :: tail := by
      rw [skipBlanks_append hafter, skipBlanks_cons (by decide)]
    simp only [restChars, List.nil_append, items, hitem, hclose]
  | cons next others ih =>
    obtain ⟨gap, hgap, hbetween⟩ := exists_between_eq layout depth
    simp only [restChars, hbetween, List.append_assoc, List.cons_append, List.length_append,
      List.length_cons] at hfuel ⊢
    obtain ⟨fuel, rfl, hless⟩ := exists_fuel hfuel
    have hitem := hread item (List.mem_cons_self ..) (fuel + 1)
      (',' :: (gap ++ (valueChars layout depth next ++ (restChars layout depth others
        ++ (after ++ ']' :: tail))))) (by omega) (stops_cons (by decide) _)
    have hrest : items (some limit) (fuel + 1) (valueChars layout depth next
        ++ (restChars layout depth others ++ (after ++ ']' :: tail))) = .ok (next :: others, tail) :=
      ih (fun v hv => hread v (List.mem_cons_of_mem _ hv)) (by simp only [List.length_append]; omega)
    have hopens := opens_valueChars next layout depth
    rw [items, hitem]
    simp only [skipBlanks_cons (show isJsonBlank ',' = false by decide),
      skipBlanks_append_of_opens hgap hopens, hrest]
    rfl

/-- A printed member is read back; what follows tells whether it was the last one. -/
theorem members_step {item : Datum}
    (hread : ReadsAs limit (valueChars layout depth item) item) (name : String) {fuel : Nat}
    (hfuel : (valueChars layout depth item).length < fuel) :
    (∀ cs tail, Stops cs → skipBlanks cs = '\x7d' :: tail →
        members (some limit) (fuel + 1)
            (stringChars name ++ ':' :: ' ' :: (valueChars layout depth item ++ cs))
          = .ok ([(name, item)], tail))
      ∧ ∀ cs,
        members (some limit) (fuel + 1)
            (stringChars name ++ ':' :: ' ' :: (valueChars layout depth item ++ ',' :: cs))
          = (members (some limit) fuel (skipBlanks cs)).map fun p => ((name, item) :: p.1, p.2) := by
  have hname : ∀ cs, stringBody (name.toList.flatMap escapeChar ++ '"' :: ':' :: ' ' :: cs)
      = .ok (name.toList, ':' :: ' ' :: cs) := fun _ => stringBody_flatMap _ _
  have hcolon : ∀ cs, skipBlanks (':' :: cs) = ':' :: cs := skipBlanks_cons (by decide)
  have hcomma : ∀ cs, skipBlanks (',' :: cs) = ',' :: cs := skipBlanks_cons (by decide)
  have hvalue : ∀ cs, skipBlanks (' ' :: (valueChars layout depth item ++ cs))
      = valueChars layout depth item ++ cs :=
    skipBlanks_append_of_opens blanks_space (opens_valueChars item layout depth)
  constructor
  · intro cs tail hcs htail
    simp only [stringChars, List.cons_append, List.append_assoc, List.nil_append, members, hname,
      hcolon, hvalue, hread fuel cs hfuel hcs, htail, String.ofList_toList]
  · intro cs
    have hitem := hread fuel (',' :: cs) hfuel (stops_cons (by decide) cs)
    simp only [stringChars, List.cons_append, List.append_assoc, List.nil_append, members, hname,
      hcolon, hvalue, hitem, hcomma, String.ofList_toList]

/-- The members of a printed table are read back, if the value of each is. -/
theorem members_restMemberChars {after : List Char} (hafter : Blanks after) {name : String}
    {item : Datum} {rest : Members}
    (hread : ∀ p ∈ (name, item) :: rest, ReadsAs limit (valueChars layout depth p.2) p.2)
    {fuel : Nat}
    (hfuel : (valueChars layout depth item
      ++ (restMemberChars layout depth rest ++ after)).length < fuel) (tail : List Char) :
    members (some limit) (fuel + 1)
        (stringChars name ++ ':' :: ' ' :: (valueChars layout depth item
          ++ (restMemberChars layout depth rest ++ (after ++ '\x7d' :: tail))))
      = .ok ((name, item) :: rest, tail) := by
  induction rest generalizing name item fuel with
  | nil =>
    simp only [restMemberChars, List.nil_append, List.length_append] at hfuel ⊢
    obtain ⟨hlast, -⟩ := members_step
      (hread (name, item) (List.mem_cons_self ..)) name
      (Nat.lt_of_le_of_lt (Nat.le_add_right ..) hfuel)
    refine hlast _ tail ?_ ?_
    · exact stops_append_of_blanks hafter (stops_cons (by decide) _)
    · rw [skipBlanks_append hafter, skipBlanks_cons (by decide)]
  | cons next others ih =>
    obtain ⟨nextName, nextItem⟩ := next
    obtain ⟨gap, hgap, hbetween⟩ := exists_between_eq layout depth
    simp only [restMemberChars, hbetween, List.append_assoc, List.cons_append, List.nil_append,
      List.length_append, List.length_cons] at hfuel ⊢
    obtain ⟨fuel, rfl, hless⟩ := exists_fuel hfuel
    obtain ⟨-, hmore⟩ := members_step
      (hread (name, item) (List.mem_cons_self ..)) name
      (Nat.lt_of_le_of_lt (Nat.le_add_right ..) hfuel)
    have hrest : members (some limit) (fuel + 1) (stringChars nextName ++ ':' :: ' ' ::
        (valueChars layout depth nextItem ++ (restMemberChars layout depth others
          ++ (after ++ '\x7d' :: tail)))) = .ok ((nextName, nextItem) :: others, tail) :=
      ih (fun p hp => hread p (List.mem_cons_of_mem _ hp)) (by simp only [List.length_append]; omega)
    have hopens : Opens (stringChars nextName) := opens_cons (by decide) _
    rw [hmore, skipBlanks_append_of_opens hgap hopens, hrest]
    rfl

/-- Pairs whose names are distinct are a table as they are. -/
theorem ofPairs_of_nodup {pairs : Members} (h : (pairs.map Prod.fst).Nodup) :
    Members.ofPairs pairs = pairs := by
  have hput : ∀ (front : Members) (name : String) (v : Datum), name ∉ front.map Prod.fst →
      front.put name v = front ++ [(name, v)] := by
    intro front name v hname
    induction front with
    | nil => rfl
    | cons first rest ih =>
      rw [List.map_cons, List.mem_cons, not_or] at hname
      rw [Members.put, if_neg (Ne.symm hname.1), ih hname.2]
      rfl
  have hfrom : ∀ front : Members, ((front ++ pairs).map Prod.fst).Nodup →
      pairs.foldl (fun members p => members.put p.1 p.2) front = front ++ pairs := by
    induction pairs with
    | nil => exact fun front _ => (List.append_nil front).symm
    | cons first rest ih =>
      intro front hnodup
      have hnew : first.1 ∉ front.map Prod.fst := by
        rw [List.map_append, List.nodup_append] at hnodup
        exact fun hmem => hnodup.2.2 _ hmem _ (List.mem_cons_self ..) rfl
      have hshift : front ++ first :: rest = front ++ [first] ++ rest := by simp
      rw [List.foldl_cons, hput front _ _ hnew, hshift]
      rw [hshift] at hnodup
      exact ih (List.nodup_cons.mp h).2 _ hnodup
  exact hfrom [] h

/-- A list that is not empty is read by its items, and a table by its members. -/
theorem value_list {text inner : List Char} (hskip : skipBlanks inner = text) (h : Opens text)
    (fuel : Nat) : value (some limit) (fuel + 1) ('[' :: inner)
      = (items (some limit) fuel text).map fun p => (.list p.1, p.2) := by
  obtain ⟨c, others, rfl, -, hc⟩ := h
  simp only [value, hskip]
  split
  · rename_i heq
    cases heq
    exact absurd rfl hc
  · rfl

theorem value_table {name : String} {text inner : List Char}
    (hskip : skipBlanks inner = stringChars name ++ text) (fuel : Nat) :
    value (some limit) (fuel + 1) ('\x7b' :: inner)
      = (members (some limit) fuel (stringChars name ++ text)).map fun p =>
        (.table (Members.ofPairs p.1), p.2) := by
  simp only [value, hskip, stringChars, List.cons_append]
  rfl

/-- The text of a value whose integers keep to the limit is read back as that value. -/
theorem readsAs_valueChars (hlimit : 0 < limit) {v : Datum} (h : v.Lossless) (hv : v.Limited limit)
    (layout : Layout) (depth : Nat) : ReadsAs limit (valueChars layout depth v) v := by
  induction h generalizing depth with
  | null =>
    intro fuel rest hfuel _
    obtain ⟨fuel, rfl, -⟩ := exists_fuel hfuel
    rfl
  | bool b =>
    intro fuel rest hfuel _
    obtain ⟨fuel, rfl, -⟩ := exists_fuel hfuel
    cases b with
    | false => rfl
    | true => rfl
  | int n =>
    cases hv with
    | int hn => exact readsAs_intChars hlimit hn
  | float x => exact readsAs_numberChars x
  | text s => exact readsAs_stringChars s
  | @list items hitems ih =>
    cases hv with
    | list hlimited =>
      intro fuel rest hfuel _
      obtain ⟨fuel, rfl, hless⟩ := exists_fuel hfuel
      cases items with
      | nil => rfl
      | cons item others =>
        simp only [valueChars, List.append_assoc, List.cons_append, List.nil_append,
          List.length_append, List.length_cons] at hless ⊢
        obtain ⟨fuel, rfl, hless⟩ := exists_fuel hless
        have hopens := opens_valueChars item layout (depth + 1)
        have hinner := items_restChars (blanks_edge layout depth)
          (fun v hv => ih v hv (hlimited v hv) (depth + 1))
          (show _ < fuel by simp only [List.length_append]; omega) rest
        have hskip := skipBlanks_append_of_opens (blanks_edge layout (depth + 1)) hopens
          (restChars layout (depth + 1) others ++ (layout.edge depth ++ ']' :: rest))
        obtain ⟨c, behind, hhead, hc⟩ := hopens
        rw [value_list hskip ⟨c, _, by rw [hhead, List.cons_append], hc⟩, hinner]
        rfl
  | @table members hnames hmembers ih =>
    cases hv with
    | table hlimited =>
      intro fuel rest hfuel _
      obtain ⟨fuel, rfl, hless⟩ := exists_fuel hfuel
      cases members with
      | nil => rfl
      | cons first others =>
        obtain ⟨name, item⟩ := first
        simp only [valueChars, List.append_assoc, List.cons_append, List.nil_append,
          List.length_append, List.length_cons] at hless ⊢
        obtain ⟨fuel, rfl, hless⟩ := exists_fuel hless
        have hopens : Opens (stringChars name) := opens_cons (by decide) _
        have hinner := members_restMemberChars (blanks_edge layout depth)
          (fun p hp => ih p hp (hlimited p hp) (depth + 1))
          (show _ < fuel by simp only [List.length_append]; omega) rest
        have hskip := skipBlanks_append_of_opens (blanks_edge layout (depth + 1)) hopens
          (':' :: ' ' :: (valueChars layout (depth + 1) item
            ++ (restMemberChars layout (depth + 1) others ++ (layout.edge depth ++ '\x7d' :: rest))))
        rw [value_table hskip, hinner]
        show Except.ok (Datum.table (Members.ofPairs ((name, item) :: others)), rest) = _
        rw [ofPairs_of_nodup hnames]

/-! ## What can be read -/

/-- The text of a value in any layout is read back as that value, whatever blanks follow it. -/
theorem read_valueChars_append {v : Datum} (h : v.Lossless) (hv : v.Limited digitLimit)
    (layout : Layout) {after : List Char} (hafter : Blanks after) :
    read (String.ofList (valueChars layout 0 v ++ after)) = .ok v := by
  have hstops : Stops after := by
    have hend := stops_append_of_blanks hafter stops_nil
    rwa [List.append_nil] at hend
  have hfuel : (valueChars layout 0 v).length < (valueChars layout 0 v ++ after).length + 1 := by
    rw [List.length_append]
    omega
  have hread := readsAs_valueChars (by decide) h hv layout 0 _ after hfuel hstops
  have hskip : skipBlanks (valueChars layout 0 v ++ after) = valueChars layout 0 v ++ after :=
    skipBlanks_append_of_opens blanks_nil (opens_valueChars v layout 0) after
  have hend : skipBlanks after = [] := by
    have hall := skipBlanks_append hafter []
    rwa [List.append_nil] at hall
  rw [read, readChars, String.toList_ofList, hskip, hread]
  simp only [hend, List.isEmpty_nil, if_true]

end Json

end LintBroker
