/-
  LintBroker.Proofs.TimeLimits

  The time limits of a configuration.  A limit is refused when it is zero or below, and
  not when it fails to be above zero: the two tests agree on every number but the one
  that is none (`nonpositive_eq_false_iff`).  So a table has only positive limits
  exactly if no usable entry gives that one, and every other limit that is no positive
  number is refused (`timeLimits_of_loadEngines`).
-/
import LintBroker.Number.Digits
import LintBroker.Proofs.EngineLoading

namespace LintBroker

open LintBroker.Journal LintBroker.Number

/-! ## Numbers above zero -/

namespace Number

/-- What is not nothing is not rounded to nothing as a whole number of units. -/
theorem Magnitude.mantissa_pos_of_nearest? {units : Nat} (hunits : 0 < units) {m : Magnitude}
    (h : nearest? units 1 = some m) : 0 < m.mantissa := by
  simp only [nearest?, Nat.div_one, Nat.one_mul, Nat.pow_eq] at h
  split at h
  · cases h
    by_cases hzero : exponentOf units = 0
    · have hle := div_le_divideNearest units (2 ^ exponentOf units)
      rw [hzero, Nat.pow_zero, Nat.div_one] at hle
      have hexponent : units.log2 - 52 = 0 := hzero
      show 0 < divideNearest units (2 ^ (units.log2 - 52))
      rw [hexponent]
      exact Nat.lt_of_lt_of_le hunits hle
    · exact Nat.lt_of_lt_of_le (Nat.two_pow_pos 52) (le_divideNearest_exponentOf hzero)
  · split at h
    · cases h
      exact Nat.two_pow_pos 52
    · cases h

namespace Binary64

/-- Not being zero or below is being above zero, or being no number at all. -/
theorem nonpositive_eq_false_iff {x : Binary64} :
    x.nonpositive = false ↔ x.positive = true ∨ x = .nan := by
  cases x with
  | nan => simp [nonpositive]
  | infinite negative => simp [nonpositive, positive]
  | finite negative m => simp [nonpositive, positive, bne]

/-- A whole number above zero is put as a binary number above zero. -/
theorem positive_of_ofInt? {n : Int} (hn : 0 < n) {x : Binary64} (h : ofInt? n = some x) :
    x.positive = true := by
  have hsign : decide (n < 0) = false := decide_eq_false (by omega)
  unfold ofInt? ofRatio at h
  rw [hsign] at h
  cases hnearest : Magnitude.nearest? (Magnitude.unitsPerOne * n.natAbs) 1 with
  | none =>
    rw [hnearest] at h
    cases h
  | some m =>
    rw [hnearest] at h
    cases h
    have hunits : 0 < Magnitude.unitsPerOne * n.natAbs :=
      Nat.mul_pos (Nat.pos_of_ne_zero Magnitude.unitsPerOne_ne_zero) (by omega)
    have hmantissa := Magnitude.mantissa_pos_of_nearest? hunits hnearest
    simp [positive, Nat.ne_of_gt hmantissa]

end Binary64

end Number

/-! ## Limits -/

/-- A number above zero. -/
inductive Datum.Positive : Datum → Prop where
  | int {n : Int} (h : 0 < n) : Positive (.int n)
  | float {x : Binary64} (h : x.positive = true) : Positive (.float x)

/-- No limit, or one that is a number above zero. -/
inductive PositiveLimit : Option Seconds → Prop where
  | none : PositiveLimit none
  | real {x : Binary64} (h : x.positive = true) : PositiveLimit (some (.real x))

/-- The value that is no number is not above zero, but a limit is read from it. -/
theorem isLimit_iff {value : Datum} :
    IsLimit value ↔ value = .null ∨ value.Positive ∨ value = .float .nan := by
  unfold IsLimit
  constructor
  · rintro (rfl | ⟨n, rfl, hn⟩ | ⟨x, rfl, hx⟩)
    · exact Or.inl rfl
    · exact Or.inr (Or.inl (.int hn))
    · rcases Binary64.nonpositive_eq_false_iff.mp hx with hpositive | rfl
      · exact Or.inr (Or.inl (.float hpositive))
      · exact Or.inr (Or.inr rfl)
  · rintro (rfl | hpositive | rfl)
    · exact Or.inl rfl
    · cases hpositive with
      | @int n hn => exact Or.inr (Or.inl ⟨n, rfl, hn⟩)
      | @float x hx =>
        exact Or.inr (Or.inr ⟨x, rfl, Binary64.nonpositive_eq_false_iff.mpr (Or.inl hx)⟩)
    · exact Or.inr (Or.inr ⟨.nan, rfl, rfl⟩)

/-- A limit that was read is positive, unless it was read from what is no number. -/
theorem limit_cases {value : Datum} {limit : Option Seconds} (hvalue : IsLimit value)
    (h : ShowsLimit value limit) :
    (value ≠ .float .nan ∧ PositiveLimit limit)
      ∨ value = .float .nan ∧ limit = some (.real .nan) := by
  cases h with
  | none =>
    refine Or.inl ⟨fun heq => ?_, .none⟩
    cases heq
  | @whole n x hx =>
    refine Or.inl ⟨fun heq => ?_, .real (Binary64.positive_of_ofInt? ?_ hx)⟩
    · cases heq
    rcases isLimit_iff.mp hvalue with heq | hpositive | heq
    · cases heq
    · cases hpositive with
      | int hn => exact hn
    · cases heq
  | real x =>
    rcases isLimit_iff.mp hvalue with heq | hpositive | heq
    · cases heq
    · cases hpositive with
      | float hx =>
        refine Or.inl ⟨fun heq => ?_, .real hx⟩
        cases heq
        cases hx
    · cases heq
      exact Or.inr ⟨rfl, rfl⟩

theorem not_positiveLimit_nan : ¬ PositiveLimit (some (.real .nan)) := by
  intro h
  cases h with
  | real hx => cases hx

/-! ## One entry -/

/-- The entry gives a limit that is no number. -/
def LimitsByNaN (entry : Datum) : Prop :=
  ∃ members : Members, entry = .table members ∧ members.get? "timeout" = some (.float .nan)

theorem limitsByNaN_table_iff {members : Members} :
    LimitsByNaN (.table members) ↔ members.get? "timeout" = some (.float .nan) := by
  simp only [LimitsByNaN, Datum.table.injEq, exists_eq_left']

/-- The limit of an engine without one, after an entry that can be used. -/
theorem limit_of_takes {base engine : Engine} {members : Members} (hnone : base.timeout = none)
    (husable : members.Usable) (htakes : base.Takes members engine) :
    (PositiveLimit engine.timeout ∧ ¬ LimitsByNaN (.table members))
      ∨ engine.timeout = some (.real .nan) ∧ LimitsByNaN (.table members) := by
  have htimeout := htakes.timeout
  rw [limitsByNaN_table_iff]
  cases hvalue : members.get? "timeout" with
  | none =>
    rw [hvalue] at htimeout
    have hkept : engine.timeout = base.timeout := htimeout
    rw [hkept, hnone]
    exact Or.inl ⟨.none, fun heq => by cases heq⟩
  | some value =>
    rw [Option.some.injEq]
    exact (limit_cases (husable.timeout value hvalue) (htimeout.shown hvalue)).imp
      And.symm And.symm

/-- The members of other names. -/
def Members.without (members : Members) (name : String) : Members :=
  members.filter fun p => p.1 != name

theorem Members.get?_without (members : Members) {name other : String} (h : other ≠ name) :
    (members.without name).get? other = members.get? other := by
  unfold without get?
  induction members with
  | nil => rfl
  | cons first rest ih =>
    obtain ⟨key, value⟩ := first
    by_cases hkey : key = name
    · subst hkey
      rw [List.filter_cons_of_neg (by simp), lookup_cons_of_ne h]
      exact ih
    · rw [List.filter_cons_of_pos (by simpa using hkey), List.lookup_cons, List.lookup_cons, ih]

theorem Members.get?_without_self (members : Members) (name : String) :
    (members.without name).get? name = none := by
  unfold without get?
  rw [lookup_eq_none_iff_not_mem]
  simp

theorem given_eq_error_iff {α : Type} {members : Members} {name : String} {inForce : α}
    {read : Datum → Option α} {rejection other : Rejection} :
    given members name inForce read rejection = .error other
      ↔ rejection = other ∧ ∃ value, members.get? name = some value ∧ read value = none := by
  unfold given
  cases members.get? name with
  | none => simp
  | some value =>
    cases h : read value with
    | none => simp [h]
    | some a => simp [h]

theorem timeoutOf?_eq_none_iff {value : Datum} : timeoutOf? value = none ↔ ¬ IsLimit value := by
  rw [← isSome_timeoutOf?_iff, Bool.not_eq_true, Option.isSome_eq_false_iff, Option.isNone_iff_eq_none]

/-- The limit is to blame exactly if it cannot be read and all else in the entry can be used. -/
theorem overridden_eq_badTimeout_iff {base : Engine} {members : Members} :
    base.overridden members = .error .badTimeout
      ↔ Members.Usable (members.without "timeout")
        ∧ ∃ value, members.get? "timeout" = some value ∧ ¬ IsLimit value := by
  have hsteps : base.overridden members = .error .badTimeout
      ↔ (∃ command, Setting (members.get? "command") (fun v a => commandOf? v = some a)
          base.command command)
        ∧ (∃ description, Setting (members.get? "description") (fun v a => v.text? = some a)
          base.description description)
        ∧ (∃ args, Setting (members.get? "args") (fun v a => argsOf? v = some a) base.args args)
        ∧ (∃ env, Setting (members.get? "env") (fun v a => envOf? v = some a) base.env env)
        ∧ ∃ value, members.get? "timeout" = some value ∧ timeoutOf? value = none := by
    unfold Engine.overridden
    simp only [except_bind_eq_error, given_eq_error_iff, given_eq_ok_iff, reduceCtorEq, false_and,
      false_or, true_and, pure, Except.pure, and_false, exists_false, or_false, exists_and_right]
  rw [← @overridden_isOk_iff base, hsteps]
  simp only [overridden_eq_ok_iff, timeoutOf?_eq_none_iff,
    Members.get?_without_self, Members.get?_without members (show "command" ≠ "timeout" by decide),
    Members.get?_without members (show "description" ≠ "timeout" by decide),
    Members.get?_without members (show "args" ≠ "timeout" by decide),
    Members.get?_without members (show "env" ≠ "timeout" by decide)]
  constructor
  · rintro ⟨⟨command, hcommand⟩, ⟨description, hdescription⟩, ⟨args, hargs⟩, ⟨env, henv⟩, hlimit⟩
    exact ⟨⟨{ base with command, description, args, env }, rfl, hcommand, hdescription, hargs, henv,
      rfl⟩, hlimit⟩
  · rintro ⟨⟨engine, -, hcommand, hdescription, hargs, henv, -⟩, hlimit⟩
    exact ⟨⟨_, hcommand⟩, ⟨_, hdescription⟩, ⟨_, hargs⟩, ⟨_, henv⟩, hlimit⟩

/-! ## Loading -/

variable {config : Members} {table : EngineTable}

/-- An engine of the table is a known one, which has no limit, as its own entry has changed it. -/
theorem engineOf_of_mem (hnames : ((engineEntries config).map Prod.fst).Nodup)
    (h : (loadEngines config).result = .ok table) {name : String} {engine : Engine}
    (hmem : (name, engine) ∈ table) :
    ∃ base : Engine, base.timeout = none
      ∧ EngineOf name base ((engineEntries config).get? name) engine := by
  have hknown := map_fst_of_loadEngines h
  have hfound : table.get? name = some engine := by
    have hdistinct : (table.map Prod.fst).Nodup := by
      rw [hknown]
      decide
    exact (lookup_eq_some_iff_mem hdistinct).mpr hmem
  obtain ⟨base, hbase⟩ : ∃ base, Engine.defaults.get? name = some base := by
    rw [← Option.ne_none_iff_exists', EngineTable.get?, Ne, lookup_eq_none_iff_not_mem, not_not]
    have hname : name ∈ table.map Prod.fst := List.mem_map_of_mem hmem
    rw [hknown] at hname
    exact hname
  refine ⟨base, (defaults_sound hbase).2.2, ?_⟩
  have ha := applied_of_loadEngines hnames h
  cases hentry : (engineEntries config).get? name with
  | none =>
    rw [ha.others name (lookup_eq_none_iff_not_mem.mp hentry), hbase] at hfound
    exact (Option.some.inj hfound).symm
  | some entry =>
    have hin := (get?_eq_some_iff_mem hnames).mp hentry
    obtain ⟨settled, hsettled, hof⟩ := engineOf_of_settled hbase (ha.own name entry hin)
    rw [hfound] at hsettled
    cases hsettled
    exact hof

/-- An engine of the table has a positive limit, unless a usable entry of its name gives one that is
    no number. -/
theorem limit_of_mem (hnames : ((engineEntries config).map Prod.fst).Nodup)
    (h : (loadEngines config).result = .ok table) {name : String} {engine : Engine}
    (hmem : (name, engine) ∈ table) :
    (PositiveLimit engine.timeout ∧ ∀ entry, (name, entry) ∈ engineEntries config →
        EntryUsable name entry → ¬ LimitsByNaN entry)
      ∨ engine.timeout = some (.real .nan) ∧ ∃ entry, (name, entry) ∈ engineEntries config
        ∧ EntryUsable name entry ∧ LimitsByNaN entry := by
  obtain ⟨base, hnone, hof⟩ := engineOf_of_mem hnames h hmem
  simp only [← get?_eq_some_iff_mem hnames]
  cases hentry : (engineEntries config).get? name with
  | none =>
    rw [hentry] at hof
    rw [show engine = base from hof, hnone]
    exact Or.inl ⟨.none, fun entry heq => by cases heq⟩
  | some entry =>
    rw [hentry] at hof
    simp only [Option.some.injEq, forall_eq', exists_eq_left']
    rcases hof with ⟨husable, rfl⟩ | ⟨husable, members, rfl, htakes⟩
    · rw [hnone]
      exact Or.inl ⟨.none, fun hother => absurd hother husable⟩
    · obtain ⟨-, _, heq, hkinds⟩ := id husable
      cases heq
      rcases limit_of_takes hnone hkinds htakes with ⟨hpositive, hnan⟩ | ⟨hlimit, hnan⟩
      · exact Or.inl ⟨hpositive, fun _ => hnan⟩
      · exact Or.inr ⟨hlimit, husable, hnan⟩

/-- An entry with a limit that cannot be read is refused with a warning, which is about the limit if
    all else in the entry can be used, and the known engine stays in force. -/
theorem refused_of_not_isLimit (hnames : ((engineEntries config).map Prod.fst).Nodup)
    (h : (loadEngines config).result = .ok table) {name : String} {base : Engine}
    {members : Members} {value : Datum} (hbase : Engine.defaults.get? name = some base)
    (hin : (name, .table members) ∈ engineEntries config)
    (hvalue : members.get? "timeout" = some value) (hlimit : ¬ IsLimit value) :
    table.get? name = some base
      ∧ ∃ rejection : Rejection,
        engineWarning (rejection.message name) ∈ (loadEngines config).records
        ∧ (rejection = .badTimeout ↔ Members.Usable (members.without "timeout")) := by
  have hover : readOverride name (.table members) (Engine.defaults.get? name)
      = base.overridden members := by
    rw [hbase]
    simp only [readOverride, (defaults_sound hbase).2.1, Bool.not_true, Bool.false_eq_true, if_false]
  cases hread : base.overridden members with
  | ok engine =>
    have husable := overridden_isOk_iff.mp ⟨engine, hread⟩
    exact absurd (husable.timeout value hvalue) hlimit
  | error rejection =>
    rw [hread] at hover
    refine ⟨?_, rejection, ?_, ?_⟩
    · have hsettled := (applied_of_loadEngines hnames h).own name _ hin
      rw [hsettled.unique (.rejected hover), hbase]
    · rw [records_loadEngines hnames h, configWarnings_of_mem hin]
      refine List.mem_filterMap.mpr ⟨_, hin, ?_⟩
      simp only [entryWarning?, hover, warning?]
    · have hblame := @overridden_eq_badTimeout_iff base members
      rw [hread, Except.error.injEq] at hblame
      rw [hblame, and_iff_left ⟨value, hvalue, hlimit⟩]

/-- The time limits of a table.  They are all numbers above zero exactly if no usable entry gives one
    that is no number, and they are never anything else.  An entry with any other limit that is no
    positive number is refused with a warning, which is about the limit if all else in the entry can
    be used, and the known engine stays in force. -/
theorem timeLimits_of_loadEngines (config : Option Members) {table : EngineTable}
    (hnames : ((engineEntries (config.getD [])).map Prod.fst).Nodup)
    (h : (loadEngines (config.getD [])).result = .ok table) :
    ((∀ entry ∈ table, PositiveLimit entry.2.timeout)
        ↔ ∀ entry ∈ engineEntries (config.getD []),
          EntryUsable entry.1 entry.2 → ¬ LimitsByNaN entry.2)
      ∧ (∀ entry ∈ table, PositiveLimit entry.2.timeout ∨ entry.2.timeout = some (.real .nan))
      ∧ ∀ (name : String) (base : Engine) (members : Members) (value : Datum),
        Engine.defaults.get? name = some base →
        (name, .table members) ∈ engineEntries (config.getD []) →
        members.get? "timeout" = some value →
        value ≠ .null → ¬ value.Positive → value ≠ .float .nan →
        table.get? name = some base
          ∧ ∃ rejection : Rejection,
            engineWarning (rejection.message name) ∈ (loadEngines (config.getD [])).records
            ∧ (rejection = .badTimeout ↔ Members.Usable (members.without "timeout")) := by
  refine ⟨⟨fun hall entry hentry husable hnan => ?_, fun hall entry hentry => ?_⟩,
    fun entry hentry => ?_, ?_⟩
  · -- The entry puts its own limit in force.
    obtain ⟨⟨base, hbase⟩, -⟩ := id husable
    have hmem : entry.1 ∈ table.map Prod.fst := by
      rw [map_fst_of_loadEngines h]
      by_contra hmissing
      rw [EngineTable.get?, lookup_eq_none_iff_not_mem.mpr hmissing] at hbase
      cases hbase
    obtain ⟨⟨name, engine⟩, hengine, hname⟩ := List.mem_map.mp hmem
    cases hname
    rcases limit_of_mem hnames h hengine with ⟨-, hnone⟩ | ⟨hlimit, -⟩
    · exact hnone _ hentry husable hnan
    · have hpositive := hall _ hengine
      rw [hlimit] at hpositive
      exact not_positiveLimit_nan hpositive
  · rcases limit_of_mem hnames h hentry with ⟨hpositive, -⟩ | ⟨-, given, hin, husable, hnan⟩
    · exact hpositive
    · exact absurd hnan (hall _ hin husable)
  · exact (limit_of_mem hnames h hentry).imp And.left And.left
  · intro name base members value hbase hin hvalue hnull hpositive hnan
    refine refused_of_not_isLimit hnames h hbase hin hvalue fun hlimit => ?_
    rcases isLimit_iff.mp hlimit with hvalue | hvalue | hvalue
    · exact hnull hvalue
    · exact hpositive hvalue
    · exact hnan hvalue

/-- A configuration with a limit that is no number and one that is zero. -/
def brokenLimits : Members :=
  [("engines", .table
    [("eslint", .table [("timeout", .float .nan)]), ("pyright", .table [("timeout", .int 0)])])]

/-- The limit that is no number is put in force, and the only warning is about the other one. -/
theorem timeout_brokenLimits :
    ((loadEngines brokenLimits).result.toOption.bind fun table =>
        (table.get? "eslint").bind Engine.timeout) = some (.real .nan)
      ∧ (loadEngines brokenLimits).records.map Record.message
        = ["Invalid engine config ([engines.pyright] timeout must be a positive number)"] := by
  decide +kernel

/-- Of the two limits one is not positive, and the other is refused for itself. -/
theorem timeLimits_of_loadEngines_brokenLimits :
    ((engineEntries brokenLimits).map Prod.fst).Nodup
      ∧ ∃ table, (loadEngines brokenLimits).result = .ok table
        ∧ ¬ (∀ entry ∈ table, PositiveLimit entry.2.timeout)
        ∧ table.get? "pyright" = some Engine.pyright
        ∧ engineWarning (Rejection.badTimeout.message "pyright")
          ∈ (loadEngines brokenLimits).records := by
  have hnames : ((engineEntries brokenLimits).map Prod.fst).Nodup := by decide +kernel
  have hok : (loadEngines brokenLimits).result.isOk = true := by decide +kernel
  obtain ⟨table, h⟩ := exists_eq_ok_of_isOk hok
  obtain ⟨hpositive, -, hrefused⟩ := timeLimits_of_loadEngines (some brokenLimits) hnames h
  have hentry : ("eslint", Datum.table [("timeout", .float .nan)]) ∈ engineEntries brokenLimits :=
    List.mem_cons_self ..
  have husable : EntryUsable "eslint" (.table [("timeout", .float .nan)]) :=
    readOverride_isOk_iff.mp (exists_eq_ok_of_isOk (by decide +kernel))
  have hempty : Members.Usable (Members.without [("timeout", .int 0)] "timeout") :=
    (@overridden_isOk_iff Engine.pyright _).mp ⟨Engine.pyright, rfl⟩
  obtain ⟨hkept, rejection, hwarned, hblame⟩ := hrefused "pyright" Engine.pyright
    [("timeout", .int 0)] (.int 0) rfl (List.mem_of_getLast? rfl) rfl (fun heq => by cases heq)
    (fun hzero => by cases hzero; omega) (fun heq => by cases heq)
  rw [hblame.mpr hempty] at hwarned
  exact ⟨hnames, table, h, fun hall => hpositive.mp hall _ hentry husable ⟨_, rfl, rfl⟩, hkept,
    hwarned⟩

end LintBroker
