/-
  LintBroker.Proofs.EngineLoading

  When a configuration gives an engine table.  An entry that cannot be used is reported
  and passed over, whatever it holds.  One that can be used has its limit put as a
  binary number, and a whole number beyond the finite ones has none: such an entry, and
  nothing else, ends the loading without a table (`loadEngines_settles`).
-/
import LintBroker.Proofs.EngineTable
import LintBroker.Proofs.Overflow

namespace LintBroker

open LintBroker.Journal LintBroker.Number LintBroker.Text

/-! ## One entry -/

/-- An entry sets a whole number of seconds that is beyond the finite binary numbers. -/
def EntryBeyond (entry : Datum) : Prop :=
  ∃ members : Members, ∃ n : Int, entry = .table members ∧
    members.get? "timeout" = some (.int n) ∧ (Binary64.firstBeyond : Int) ≤ n

/-- The failure of a limit that is beyond the finite binary numbers. -/
def beyondFailure : Failure := .overflow "int too large to convert to float"

theorem timeoutOf?_eq_whole_iff {value : Datum} {n : Int} :
    timeoutOf? value = some (some (.whole n)) ↔ value = .int n ∧ 0 < n := by
  cases value with
  | int m =>
    by_cases hm : m ≤ 0
    · simp only [timeoutOf?, if_pos hm, Datum.int.injEq]
      refine iff_of_false (fun h => by cases h) ?_
      rintro ⟨rfl, hn⟩
      omega
    · simp only [timeoutOf?, if_neg hm, Option.some.injEq, Seconds.whole.injEq, Datum.int.injEq]
      refine ⟨?_, And.left⟩
      rintro rfl
      exact ⟨rfl, by omega⟩
  | float x =>
    cases hx : x.nonpositive with
    | true => simp [timeoutOf?, hx]
    | false => simp [timeoutOf?, hx]
  | _ => simp [timeoutOf?]

/-- The limit of an engine is a whole number exactly if its entry gives that number, and it is
    greater than zero. -/
theorem timeout_eq_whole_iff {base engine : Engine} {members : Members} {n : Int}
    (hbase : base.timeout = none) (h : base.overridden members = .ok engine) :
    engine.timeout = some (.whole n) ↔ members.get? "timeout" = some (.int n) ∧ 0 < n := by
  obtain ⟨-, -, -, -, -, htimeout⟩ := overridden_eq_ok_iff.mp h
  cases hvalue : members.get? "timeout" with
  | none =>
    rw [hvalue] at htimeout
    have hkept : engine.timeout = base.timeout := htimeout
    simp [hkept, hbase]
  | some value =>
    have hread := htimeout.shown hvalue
    rw [Option.some.injEq, ← timeoutOf?_eq_whole_iff, hread, Option.some.injEq]

/-- A limit becomes a binary number unless it is a whole one beyond those. -/
theorem withRealTimeout_cases (engine : Engine) :
    (∃ n, engine.timeout = some (.whole n) ∧ Binary64.firstBeyond ≤ n.natAbs
        ∧ engine.withRealTimeout = .error beyondFailure)
      ∨ (∀ n, engine.timeout = some (.whole n) → n.natAbs < Binary64.firstBeyond)
        ∧ ∃ engine', engine.withRealTimeout = .ok engine' := by
  cases htimeout : engine.timeout with
  | none =>
    refine Or.inr ⟨?_, engine, ?_⟩
    · intro n h
      cases h
    · simp only [Engine.withRealTimeout, htimeout]
  | some span =>
    cases span with
    | real x =>
      refine Or.inr ⟨?_, engine, ?_⟩
      · intro n h
        cases h
      · simp only [Engine.withRealTimeout, htimeout]
    | whole n =>
      cases hreal : Binary64.ofInt? n with
      | none =>
        refine Or.inl ⟨n, rfl, Binary64.ofInt?_eq_none_iff.mp hreal, ?_⟩
        simp only [Engine.withRealTimeout, htimeout, hreal, beyondFailure]
      | some x =>
        refine Or.inr ⟨fun m hm => ?_, { engine with timeout := some (.real x) }, ?_⟩
        · cases hm
          rw [← Nat.not_le, ← Binary64.ofInt?_eq_none_iff, hreal]
          exact Option.some_ne_none x
        · simp only [Engine.withRealTimeout, htimeout, hreal]

/-- What an entry does when it meets the known engine of its name: it is rejected, or it ends the
    loading because its limit is beyond the binary numbers, or it gives an engine. -/
inductive Passage (name : String) (entry : Datum) : Prop where
  | rejected {rejection : Rejection} (husable : ¬ EntryUsable name entry)
      (h : readOverride name entry (Engine.defaults.get? name) = .error rejection)
  | lost {engine : Engine} (husable : EntryUsable name entry) (hbeyond : EntryBeyond entry)
      (h : readOverride name entry (Engine.defaults.get? name) = .ok engine)
      (hreal : engine.withRealTimeout = .error beyondFailure)
  | taken {engine engine' : Engine} (hbeyond : ¬ EntryBeyond entry)
      (h : readOverride name entry (Engine.defaults.get? name) = .ok engine)
      (hreal : engine.withRealTimeout = .ok engine')

theorem passage (name : String) (entry : Datum) : Passage name entry := by
  cases hread : readOverride name entry (Engine.defaults.get? name) with
  | error rejection =>
    refine .rejected (fun husable => ?_) hread
    obtain ⟨engine, hok⟩ := readOverride_isOk_iff.mpr husable
    rw [hread] at hok
    cases hok
  | ok engine =>
    have husable := readOverride_isOk_iff.mp ⟨engine, hread⟩
    obtain ⟨⟨base, hbase⟩, members, heq, -⟩ := id husable
    subst heq
    obtain ⟨-, hsafe, hnone⟩ := defaults_sound hbase
    have hover : base.overridden members = .ok engine := by
      simpa only [readOverride, hbase, hsafe, Bool.not_true, Bool.false_eq_true, if_false]
        using hread
    rcases withRealTimeout_cases engine with ⟨n, htimeout, hle, hreal⟩ | ⟨hlt, engine', hreal⟩
    · obtain ⟨hvalue, hpos⟩ := (timeout_eq_whole_iff hnone hover).mp htimeout
      exact .lost husable ⟨members, n, rfl, hvalue, by omega⟩ hread hreal
    · refine .taken ?_ hread hreal
      rintro ⟨_, n, heq, hvalue, hle⟩
      cases heq
      have hpos : (0 : Int) < Binary64.firstBeyond := by decide +kernel
      have := hlt n ((timeout_eq_whole_iff hnone hover).mpr ⟨hvalue, by omega⟩)
      omega

/-! ## The run over the entries -/

/-- A run over entries with distinct names, from a table in which the known engines of these names
    are in force, gives a table exactly if no usable entry has a limit beyond the binary numbers, and
    fails for no other reason. -/
theorem result_applyOverrides {entries : Members} {table : EngineTable}
    (hnames : (entries.map Prod.fst).Nodup)
    (hknown : ∀ name ∈ entries.map Prod.fst, table.get? name = Engine.defaults.get? name) :
    ((∃ table', (applyOverrides table entries).result = .ok table')
        ∧ ∀ entry ∈ entries, EntryUsable entry.1 entry.2 → ¬ EntryBeyond entry.2)
      ∨ ((applyOverrides table entries).result = .error beyondFailure
        ∧ ∃ entry ∈ entries, EntryUsable entry.1 entry.2 ∧ EntryBeyond entry.2) := by
  induction entries generalizing table with
  | nil => exact Or.inl ⟨⟨table, rfl⟩, fun entry h => by cases h⟩
  | cons first rest ih =>
    obtain ⟨name, entry⟩ := first
    obtain ⟨hfirst, hrest⟩ := List.nodup_cons.mp hnames
    have hown : table.get? name = Engine.defaults.get? name :=
      hknown name (List.mem_cons_self ..)
    have hlater : ∀ other ∈ rest.map Prod.fst, table.get? other = Engine.defaults.get? other :=
      fun other hother => hknown other (List.mem_cons_of_mem _ hother)
    rw [applyOverrides_cons_eq, hown]
    -- The entry in front neither lets the run end well nor makes it fail: the rest decides.
    have hgoes : ∀ {later : EngineTable},
        (∀ other ∈ rest.map Prod.fst, later.get? other = Engine.defaults.get? other) →
        (EntryUsable name entry → ¬ EntryBeyond entry) →
        ((∃ table', (applyOverrides later rest).result = .ok table')
            ∧ ∀ p ∈ (name, entry) :: rest, EntryUsable p.1 p.2 → ¬ EntryBeyond p.2)
          ∨ ((applyOverrides later rest).result = .error beyondFailure
            ∧ ∃ p ∈ (name, entry) :: rest, EntryUsable p.1 p.2 ∧ EntryBeyond p.2) := by
      intro later hstill hentry
      rcases ih hrest hstill with ⟨hok, hall⟩ | ⟨hfail, p, hp, hlost⟩
      · exact Or.inl ⟨hok, List.forall_mem_cons.mpr ⟨hentry, hall⟩⟩
      · exact Or.inr ⟨hfail, p, List.mem_cons_of_mem _ hp, hlost⟩
    cases passage name entry with
    | rejected husable h =>
      rw [h]
      exact hgoes hlater fun hu => absurd hu husable
    | lost husable hbeyond h hreal =>
      rw [h]
      refine Or.inr ⟨?_, (name, entry), List.mem_cons_self .., husable, hbeyond⟩
      simp only [hreal, Traced.ofExcept_error_bind]
      rfl
    | taken hbeyond h hreal =>
      rw [h]
      simp only [hreal, Traced.ofExcept_ok_bind]
      refine hgoes (fun other hother => ?_) fun _ => hbeyond
      have hne : other ≠ name := fun heq => hfirst (heq ▸ hother)
      rw [EngineTable.get?_replace, if_neg hne]
      exact hlater other hother

/-! ## Loading -/

/-- The warnings that a configuration leads to: one for each entry that cannot be used, or a single
    one when the section is no table. -/
def configWarnings (config : Members) : List Record :=
  match config.get? "engines" with
  | none => []
  | some (.table entries) => entries.filterMap entryWarning?
  | some _ => [engineWarning "Invalid config ([engines] must be a table), using defaults"]

theorem records_loadEngines {config : Members} {table : EngineTable}
    (hnames : ((engineEntries config).map Prod.fst).Nodup)
    (h : (loadEngines config).result = .ok table) :
    (loadEngines config).records = configWarnings config := by
  have hwarned := (applied_of_loadEngines hnames h).warned
  cases hsection : config.get? "engines" with
  | none =>
    simp only [loadEngines, configWarnings, hsection]
    rfl
  | some value =>
    cases value with
    | table entries =>
      rw [(loadEngines_eq config).2 entries hsection, hwarned]
      simp only [configWarnings, engineEntries, hsection]
      rfl
    | _ =>
      simp only [loadEngines, configWarnings, hsection]
      rfl

theorem configWarnings_of_mem {config : Members} {entry : String × Datum}
    (h : entry ∈ engineEntries config) :
    configWarnings config = (engineEntries config).filterMap entryWarning? := by
  unfold configWarnings
  unfold engineEntries at h ⊢
  cases hsection : config.get? "engines" with
  | none =>
    rw [hsection] at h
    cases h
  | some value =>
    cases value with
    | table entries => rfl
    | _ =>
      rw [hsection] at h
      cases h

/-- Loading gives a table exactly if no usable entry has a limit beyond the binary numbers, and fails
    for no other reason.  The table has all the known names, whatever cannot be used is reported and
    nothing else is, and an entry that cannot be used leaves the known engine in force. -/
theorem loadEngines_settles (config : Option Members)
    (hnames : ((engineEntries (config.getD [])).map Prod.fst).Nodup) :
    ((∃ table, (loadEngines (config.getD [])).result = .ok table)
        ↔ ∀ entry ∈ engineEntries (config.getD []),
          EntryUsable entry.1 entry.2 → ¬ EntryBeyond entry.2)
      ∧ (∀ failure, (loadEngines (config.getD [])).result = .error failure →
        failure = beyondFailure)
      ∧ ∀ table, (loadEngines (config.getD [])).result = .ok table →
        table.map Prod.fst = ["eslint", "htmlhint", "stylelint", "pyright"]
          ∧ (loadEngines (config.getD [])).records = configWarnings (config.getD [])
          ∧ ∀ entry ∈ engineEntries (config.getD []), ¬ EntryUsable entry.1 entry.2 →
            (∃ record ∈ configWarnings (config.getD []), entryWarning? entry = some record
              ∧ record.level = .warning)
            ∧ table.get? entry.1 = Engine.defaults.get? entry.1 := by
  have hrun := result_applyOverrides hnames fun _ _ => rfl
  rw [← (loadEngines_eq _).1] at hrun
  refine ⟨?_, ?_, fun table h => ⟨map_fst_of_loadEngines h, records_loadEngines hnames h, ?_⟩⟩
  · rcases hrun with ⟨hok, hall⟩ | ⟨hfail, entry, hentry, husable, hbeyond⟩
    · exact iff_of_true hok hall
    · refine iff_of_false ?_ fun hall => hall entry hentry husable hbeyond
      rintro ⟨table, hok⟩
      rw [hfail] at hok
      cases hok
  · intro failure h
    rcases hrun with ⟨⟨table, hok⟩, -⟩ | ⟨hfail, -⟩
    · rw [hok] at h
      cases h
    · rw [hfail] at h
      cases h
      rfl
  · intro entry hentry husable
    have ha := applied_of_loadEngines hnames h
    obtain ⟨record, hrecord⟩ := Option.isSome_iff_exists.mp (isSome_entryWarning?_iff.mpr husable)
    refine ⟨⟨record, ?_, hrecord, level_of_entryWarning? hrecord⟩, ?_⟩
    · rw [configWarnings_of_mem hentry]
      exact List.mem_filterMap.mpr ⟨entry, hentry, hrecord⟩
    · have hsettled := ha.own entry.1 entry.2 hentry
      generalize table.get? entry.1 = found at hsettled ⊢
      cases hsettled with
      | rejected _ => rfl
      | accepted hread _ => exact absurd (readOverride_isOk_iff.mp ⟨_, hread⟩) husable

/-- A configuration whose script engine may take ten to the power 309 seconds, and whose Python engine
    has an empty command. -/
def hugeConfig : Members :=
  [("engines", .table
    [("eslint", .table [("timeout", .int (10 ^ 309))]),
      ("pyright", .table [("command", .text "")])])]

/-- One limit that is too large costs the whole table. -/
theorem loadEngines_hugeConfig :
    (loadEngines hugeConfig).result = .error beyondFailure
      ∧ ∀ table, (loadEngines hugeConfig).result ≠ .ok table := by
  have hfail : (loadEngines hugeConfig).result = .error beyondFailure := by decide +kernel
  rw [hfail]
  exact ⟨rfl, fun table h => by cases h⟩

/-- The mixed configuration gives a table, in which the engine with the broken setting is the known
    one. -/
theorem loadEngines_settles_mixedConfig :
    ((engineEntries mixedConfig).map Prod.fst).Nodup
      ∧ ∃ table, (loadEngines mixedConfig).result = .ok table
        ∧ table.map Prod.fst = ["eslint", "htmlhint", "stylelint", "pyright"]
        ∧ (loadEngines mixedConfig).records = configWarnings mixedConfig
        ∧ table.get? "pyright" = some Engine.pyright := by
  have hnames : ((engineEntries mixedConfig).map Prod.fst).Nodup := by decide +kernel
  obtain ⟨hok, -, hall⟩ := loadEngines_settles (some mixedConfig) hnames
  have hlimits : ∀ entry ∈ engineEntries mixedConfig, ¬ EntryBeyond entry.2 := by
    rintro entry hentry ⟨members, n, heq, hvalue, hle⟩
    change entry ∈ [_, _, _] at hentry
    simp only [List.mem_cons, List.not_mem_nil, or_false] at hentry
    rcases hentry with rfl | rfl | rfl
    · cases heq
      cases hvalue
      exact absurd hle (by decide +kernel)
    · cases heq
      cases hvalue
    · cases heq
      cases hvalue
  obtain ⟨table, h⟩ := hok.mpr fun entry hentry _ => hlimits entry hentry
  obtain ⟨horder, hrecords, hskipped⟩ := hall table h
  have hbroken : ¬ EntryUsable "pyright" (.table [("args", .list [.int 1, .int 2])]) := by
    rintro ⟨-, members, heq, husable⟩
    cases heq
    obtain ⟨texts, htexts⟩ := husable.args _ rfl
    cases texts with
    | nil => cases htexts
    | cons s rest => cases htexts
  exact ⟨hnames, table, h, horder, hrecords,
    (hskipped ("pyright", _) (List.mem_of_getLast? rfl) hbroken).2⟩

end LintBroker
