/-
  LintBroker.Proofs.EngineTable

  The engine table of a configuration.  The entries of the section are applied one
  after the other, each to the table that the ones before it left.  Since the names of
  a section are distinct, the engine that an entry meets is still the one known from
  the start, so each engine depends on its own entry alone: `loadEngines_entries`.
-/
import LintBroker.Proofs.EngineEntry

namespace LintBroker

open LintBroker.Journal LintBroker.Number LintBroker.Text

/-! ## Tables -/

/-- A look-up passes over the entry of another name. -/
theorem lookup_cons_of_ne {α : Type} {name key : String} {value : α} {rest : List (String × α)}
    (h : name ≠ key) : ((key, value) :: rest).lookup name = rest.lookup name := by
  rw [List.lookup_cons, beq_eq_false_iff_ne.mpr h]

theorem lookup_eq_none_iff_not_mem {α : Type} {row : List (String × α)} {name : String} :
    row.lookup name = none ↔ name ∉ row.map Prod.fst := by
  rw [List.lookup_eq_none_iff, List.mem_map]
  constructor
  · rintro h ⟨entry, hentry, rfl⟩
    simpa using h entry hentry
  · intro h entry hentry
    simpa using fun heq => h ⟨entry, hentry, heq.symm⟩

/-- A look-up in a row with distinct names finds what is there. -/
theorem lookup_eq_some_iff_mem {α : Type} {row : List (String × α)}
    (hnames : (row.map Prod.fst).Nodup) {name : String} {value : α} :
    row.lookup name = some value ↔ (name, value) ∈ row := by
  induction row with
  | nil => simp
  | cons first rest ih =>
    obtain ⟨key, other⟩ := first
    obtain ⟨hfirst, hrest⟩ := List.nodup_cons.mp hnames
    by_cases hkey : name = key
    · subst hkey
      rw [List.lookup_cons_self, List.mem_cons, Option.some.injEq, Prod.mk.injEq]
      constructor
      · rintro rfl
        exact Or.inl ⟨rfl, rfl⟩
      · rintro (⟨-, rfl⟩ | hmem)
        · rfl
        · exact absurd (List.mem_map_of_mem hmem) hfirst
    · rw [lookup_cons_of_ne hkey, ih hrest, List.mem_cons, Prod.mk.injEq]
      constructor
      · exact Or.inr
      · rintro (⟨heq, -⟩ | hmem)
        · exact absurd heq hkey
        · exact hmem

namespace EngineTable

@[simp] theorem map_fst_replace (table : EngineTable) (name : String) (engine : Engine) :
    (table.replace name engine).map Prod.fst = table.map Prod.fst := by
  unfold replace
  rw [List.map_map]
  apply List.map_congr_left
  intro entry _
  by_cases h : entry.1 = name
  · simp [h]
  · simp [h]

/-- An engine put in its place is found there, and every other engine is found as before. -/
theorem get?_replace (table : EngineTable) (name : String) (engine : Engine) (other : String) :
    (table.replace name engine).get? other
      = if other = name then (table.get? name).map fun _ => engine else table.get? other := by
  unfold get? replace
  induction table with
  | nil => simp
  | cons entry rest ih =>
    obtain ⟨key, known⟩ := entry
    rw [List.map_cons]
    by_cases hkey : key = name
    · subst hkey
      rw [if_pos rfl, List.lookup_cons_self]
      by_cases hother : other = key
      · rw [if_pos hother, hother, List.lookup_cons_self]
        rfl
      · rw [if_neg hother, lookup_cons_of_ne hother, lookup_cons_of_ne hother, ih, if_neg hother]
    · rw [if_neg hkey]
      by_cases hother : other = name
      · have hne : other ≠ key := fun h => hkey (h.symm.trans hother)
        rw [lookup_cons_of_ne hne, ih, if_pos hother, if_pos hother, ← hother,
          lookup_cons_of_ne hne]
      · rw [if_neg hother, List.lookup_cons, List.lookup_cons, ih, if_neg hother]

/-- Every engine stands under its own name. -/
def Named (table : EngineTable) : Prop := ∀ entry ∈ table, entry.2.name = entry.1

theorem Named.replace {table : EngineTable} (h : table.Named) {name : String} {engine : Engine}
    (hengine : engine.name = name) : (table.replace name engine).Named := by
  intro entry hentry
  obtain ⟨before, hbefore, rfl⟩ := List.mem_map.mp hentry
  by_cases hname : before.1 = name
  · rw [if_pos hname]
    exact hengine
  · rw [if_neg hname]
    exact h before hbefore

end EngineTable

/-! ## The known engines -/

/-- A known engine has its own name, which is a safe one, and no limit. -/
theorem defaults_sound {name : String} {base : Engine} (h : Engine.defaults.get? name = some base) :
    base.name = name ∧ isSafeName name = true ∧ base.timeout = none := by
  have hall : ∀ entry ∈ Engine.defaults,
      entry.2.name = entry.1 ∧ isSafeName entry.1 = true ∧ entry.2.timeout = none := by
    decide +kernel
  obtain ⟨before, after, heq, -⟩ := List.lookup_eq_some_iff.mp h
  exact hall (name, base) (heq ▸ List.mem_append_right before (List.mem_cons_self ..))

/-! ## One entry -/

/-- An entry can be used: it is one of a known engine, a table, and its settings have their
    kinds. -/
def EntryUsable (name : String) (entry : Datum) : Prop :=
  (∃ base, Engine.defaults.get? name = some base) ∧
    ∃ members, entry = .table members ∧ Members.Usable members

/-- An entry is accepted exactly if it can be used. -/
theorem readOverride_isOk_iff {name : String} {entry : Datum} :
    (∃ engine, readOverride name entry (Engine.defaults.get? name) = .ok engine)
      ↔ EntryUsable name entry := by
  unfold readOverride EntryUsable
  cases hbase : Engine.defaults.get? name with
  | none =>
    by_cases hsafe : isSafeName name
    · cases entry <;> simp [hsafe]
    · simp [hsafe]
  | some base =>
    rw [(defaults_sound hbase).2.1]
    cases entry with
    | table members => simp [overridden_isOk_iff]
    | _ => simp

/-- An accepted entry gives the known engine with the given settings replaced. -/
theorem takes_of_readOverride {name : String} {entry : Datum} {base engine engine' : Engine}
    (hbase : Engine.defaults.get? name = some base)
    (h : readOverride name entry (some base) = .ok engine)
    (hreal : engine.withRealTimeout = .ok engine') :
    ∃ members, entry = .table members ∧ base.Takes members engine' := by
  unfold readOverride at h
  rw [(defaults_sound hbase).2.1] at h
  cases entry with
  | table members =>
    refine ⟨members, rfl, takes_of_overridden ?_ h hreal⟩
    intro n hn
    rw [(defaults_sound hbase).2.2] at hn
    cases hn
  | _ => simp at h

/-- What the engine of a name is after its entry: the known one after a rejection, else the one that
    the entry describes. -/
inductive Settled (name : String) (entry : Datum) : Option Engine → Prop where
  | rejected {rejection : Rejection}
      (h : readOverride name entry (Engine.defaults.get? name) = .error rejection) :
      Settled name entry (Engine.defaults.get? name)
  | accepted {engine engine' : Engine}
      (h : readOverride name entry (Engine.defaults.get? name) = .ok engine)
      (hreal : engine.withRealTimeout = .ok engine') : Settled name entry (some engine')

/-- An entry settles its engine in one way. -/
theorem Settled.unique {name : String} {entry : Datum} {a b : Option Engine}
    (ha : Settled name entry a) (hb : Settled name entry b) : a = b := by
  cases ha with
  | rejected h =>
    cases hb with
    | rejected _ => rfl
    | accepted h' _ =>
      rw [h] at h'
      cases h'
  | accepted h hreal =>
    cases hb with
    | rejected h' =>
      rw [h] at h'
      cases h'
    | accepted h' hreal' =>
      rw [h] at h'
      cases h'
      rw [hreal] at hreal'
      cases hreal'
      rfl

/-- The warning that reading the entry of a name leads to. -/
def warning? (name : String) : Except Rejection Engine → Option Record
  | .error rejection => some (engineWarning (rejection.message name))
  | .ok _ => none

/-- The warning about an entry, if it is rejected. -/
def entryWarning? (entry : String × Datum) : Option Record :=
  warning? entry.1 (readOverride entry.1 entry.2 (Engine.defaults.get? entry.1))

theorem isSome_entryWarning?_iff {entry : String × Datum} :
    (entryWarning? entry).isSome ↔ ¬ EntryUsable entry.1 entry.2 := by
  rw [← readOverride_isOk_iff]
  unfold entryWarning?
  cases readOverride entry.1 entry.2 (Engine.defaults.get? entry.1) with
  | error rejection => simp [warning?]
  | ok engine => simp [warning?]

theorem level_of_entryWarning? {entry : String × Datum} {record : Record}
    (h : entryWarning? entry = some record) : record.level = .warning := by
  unfold entryWarning? at h
  cases hread : readOverride entry.1 entry.2 (Engine.defaults.get? entry.1) with
  | error rejection =>
    rw [hread] at h
    cases h
    rfl
  | ok engine =>
    rw [hread] at h
    cases h

/-! ## The run over the entries -/

theorem applyOverrides_cons_eq (table : EngineTable) (name : String) (entry : Datum)
    (rest : Members) :
    applyOverrides table ((name, entry) :: rest)
      = (match readOverride name entry (table.get? name) with
        | .error rejection => do
          Traced.log (engineWarning (rejection.message name))
          applyOverrides table rest
        | .ok engine => do
          let engine ← Traced.ofExcept engine.withRealTimeout
          applyOverrides (table.replace name engine) rest) := rfl

/-- The two ways in which one entry can be passed when the whole run gives a table. -/
theorem applyOverrides_cons {table table' : EngineTable} {name : String} {entry : Datum}
    {rest : Members} (h : (applyOverrides table ((name, entry) :: rest)).result = .ok table') :
    (∃ rejection, readOverride name entry (table.get? name) = .error rejection ∧
      (applyOverrides table rest).result = .ok table' ∧
      (applyOverrides table ((name, entry) :: rest)).records
        = engineWarning (rejection.message name) :: (applyOverrides table rest).records) ∨
    (∃ engine engine', readOverride name entry (table.get? name) = .ok engine ∧
      engine.withRealTimeout = .ok engine' ∧
      (applyOverrides (table.replace name engine') rest).result = .ok table' ∧
      (applyOverrides table ((name, entry) :: rest)).records
        = (applyOverrides (table.replace name engine') rest).records) := by
  rw [applyOverrides_cons_eq] at h ⊢
  cases hread : readOverride name entry (table.get? name) with
  | error rejection =>
    left
    rw [hread] at h
    exact ⟨rejection, rfl, h, rfl⟩
  | ok engine =>
    right
    rw [hread] at h
    cases hreal : engine.withRealTimeout with
    | error failure =>
      simp only [hreal, Traced.ofExcept_error_bind] at h
      cases h
    | ok engine' =>
      simp only [hreal, Traced.ofExcept_ok_bind] at h ⊢
      exact ⟨engine, engine', rfl, hreal, h, rfl⟩

/-- No entry adds, removes or moves a name. -/
theorem map_fst_of_applyOverrides {entries : Members} {table table' : EngineTable}
    (h : (applyOverrides table entries).result = .ok table') :
    table'.map Prod.fst = table.map Prod.fst := by
  induction entries generalizing table with
  | nil =>
    cases h
    rfl
  | cons first rest ih =>
    rcases applyOverrides_cons h with ⟨_, _, hrun, _⟩ | ⟨_, engine', _, _, hrun, _⟩
    · exact ih hrun
    · rw [ih hrun, EngineTable.map_fst_replace]

/-- What entries make of a table in which the known engines of their names are in force. -/
structure Applied (entries : Members) (table table' : EngineTable) (records : List Record) :
    Prop where
  named : table.Named → table'.Named
  others : ∀ name, name ∉ entries.map Prod.fst → table'.get? name = table.get? name
  own : ∀ name entry, (name, entry) ∈ entries → Settled name entry (table'.get? name)
  warned : records = entries.filterMap entryWarning?

/-- A rejected entry in front leaves its engine as it is and adds its warning. -/
theorem Applied.cons_rejected {name : String} {entry : Datum} {rest : Members}
    {table table' : EngineTable} {records : List Record} {rejection : Rejection}
    (hfirst : name ∉ rest.map Prod.fst) (hown : table.get? name = Engine.defaults.get? name)
    (hread : readOverride name entry (Engine.defaults.get? name) = .error rejection)
    (ha : Applied rest table table' records) :
    Applied ((name, entry) :: rest) table table'
      (engineWarning (rejection.message name) :: records) := by
  refine ⟨ha.named, ?_, ?_, ?_⟩
  · intro other hother
    exact ha.others other fun hmem => hother (List.mem_cons_of_mem _ hmem)
  · intro other value hmem
    rcases List.mem_cons.mp hmem with heq | hmem
    · cases heq
      rw [ha.others name hfirst, hown]
      exact .rejected hread
    · exact ha.own other value hmem
  · rw [ha.warned, List.filterMap_cons]
    simp only [entryWarning?, hread, warning?]

/-- An accepted entry in front puts its engine in place, and adds nothing else. -/
theorem Applied.cons_accepted {name : String} {entry : Datum} {rest : Members}
    {table table' : EngineTable} {records : List Record} {engine engine' : Engine}
    (hfirst : name ∉ rest.map Prod.fst) (hown : table.get? name = Engine.defaults.get? name)
    (hread : readOverride name entry (Engine.defaults.get? name) = .ok engine)
    (hreal : engine.withRealTimeout = .ok engine')
    (ha : Applied rest (table.replace name engine') table' records) :
    Applied ((name, entry) :: rest) table table' records := by
  obtain ⟨⟨base, hbase⟩, -⟩ := readOverride_isOk_iff.mp ⟨engine, hread⟩
  refine ⟨?_, ?_, ?_, ?_⟩
  · intro hnamed
    rw [hbase] at hread
    obtain ⟨members, -, htakes⟩ := takes_of_readOverride hbase hread hreal
    exact ha.named (hnamed.replace (htakes.name.trans (defaults_sound hbase).1))
  · intro other hother
    obtain ⟨hne, hmem⟩ := List.ne_and_not_mem_of_not_mem_cons hother
    rw [ha.others other hmem, EngineTable.get?_replace, if_neg hne]
  · intro other value hmem
    rcases List.mem_cons.mp hmem with heq | hmem
    · cases heq
      rw [ha.others name hfirst, EngineTable.get?_replace, if_pos rfl, hown, hbase]
      exact .accepted hread hreal
    · exact ha.own other value hmem
  · rw [ha.warned, List.filterMap_cons]
    simp only [entryWarning?, hread, warning?]

/-- A run over entries with distinct names.  An entry only changes the engine of its own name, so
    the entries behind it still meet the known engines. -/
theorem applied_of_applyOverrides {entries : Members} {table table' : EngineTable}
    (hnames : (entries.map Prod.fst).Nodup)
    (hknown : ∀ name ∈ entries.map Prod.fst, table.get? name = Engine.defaults.get? name)
    (h : (applyOverrides table entries).result = .ok table') :
    Applied entries table table' (applyOverrides table entries).records := by
  induction entries generalizing table with
  | nil =>
    cases h
    exact ⟨id, fun _ _ => rfl, fun _ _ hmem => absurd hmem List.not_mem_nil, rfl⟩
  | cons first rest ih =>
    obtain ⟨name, entry⟩ := first
    obtain ⟨hfirst, hrest⟩ := List.nodup_cons.mp hnames
    have hown : table.get? name = Engine.defaults.get? name :=
      hknown name (List.mem_cons_self ..)
    have hlater : ∀ other ∈ rest.map Prod.fst, table.get? other = Engine.defaults.get? other :=
      fun other hother => hknown other (List.mem_cons_of_mem _ hother)
    rcases applyOverrides_cons h with ⟨rejection, hread, hrun, hrecords⟩ |
      ⟨engine, engine', hread, hreal, hrun, hrecords⟩
    · rw [hrecords]
      rw [hown] at hread
      exact (ih hrest hlater hrun).cons_rejected hfirst hown hread
    · have hstill : ∀ other ∈ rest.map Prod.fst,
          (table.replace name engine').get? other = Engine.defaults.get? other := by
        intro other hother
        have hne : other ≠ name := fun heq => hfirst (heq ▸ hother)
        rw [EngineTable.get?_replace, if_neg hne]
        exact hlater other hother
      rw [hrecords]
      rw [hown] at hread
      exact (ih hrest hstill hrun).cons_accepted hfirst hown hread hreal

/-! ## The table of a configuration -/

/-- The entries of the engine section of a configuration.  Without a section, or with one that is no
    table, there are none. -/
def engineEntries (config : Members) : Members :=
  ((config.get? "engines").bind Datum.table?).getD []

/-- Loading applies the entries of the section to the known engines; a section that is no table is
    reported once. -/
theorem loadEngines_eq (config : Members) :
    (loadEngines config).result = (applyOverrides Engine.defaults (engineEntries config)).result ∧
      (∀ entries, config.get? "engines" = some (.table entries) →
        (loadEngines config).records
          = (applyOverrides Engine.defaults (engineEntries config)).records) := by
  unfold loadEngines engineEntries
  cases hsection : config.get? "engines" with
  | none => exact ⟨rfl, fun entries h => by cases h⟩
  | some value =>
    cases value with
    | table entries => exact ⟨rfl, fun _ _ => rfl⟩
    | _ => exact ⟨rfl, fun entries h => by cases h⟩

/-- The known engines stand under their own names. -/
theorem defaults_named : Engine.defaults.Named := by
  unfold EngineTable.Named
  decide +kernel

theorem map_fst_of_loadEngines {config : Members} {table : EngineTable}
    (h : (loadEngines config).result = .ok table) :
    table.map Prod.fst = ["eslint", "htmlhint", "stylelint", "pyright"] :=
  map_fst_of_applyOverrides ((loadEngines_eq config).1.symm.trans h)

theorem applied_of_loadEngines {config : Members} {table : EngineTable}
    (hnames : ((engineEntries config).map Prod.fst).Nodup)
    (h : (loadEngines config).result = .ok table) :
    Applied (engineEntries config) Engine.defaults table
      (applyOverrides Engine.defaults (engineEntries config)).records :=
  applied_of_applyOverrides hnames (fun _ _ => rfl) ((loadEngines_eq config).1.symm.trans h)

/-- A look-up among entries with distinct names finds the entry that is there. -/
theorem get?_eq_some_iff_mem {entries : Members} (hnames : (entries.map Prod.fst).Nodup)
    {name : String} {entry : Datum} :
    entries.get? name = some entry ↔ (name, entry) ∈ entries :=
  lookup_eq_some_iff_mem hnames

/-- What a known engine is in the table, as its entry tells: untouched without an entry or with one
    that cannot be used, else with exactly the given settings replaced. -/
def EngineOf (name : String) (base : Engine) : Option Datum → Engine → Prop
  | none, engine => engine = base
  | some entry, engine =>
    (¬ EntryUsable name entry ∧ engine = base) ∨
      (EntryUsable name entry ∧ ∃ members, entry = .table members ∧ base.Takes members engine)

theorem engineOf_of_settled {name : String} {entry : Datum} {base : Engine}
    {found : Option Engine} (hbase : Engine.defaults.get? name = some base)
    (h : Settled name entry found) : ∃ engine, found = some engine ∧
      EngineOf name base (some entry) engine := by
  cases h with
  | rejected h =>
    refine ⟨base, hbase, Or.inl ⟨?_, rfl⟩⟩
    rw [← readOverride_isOk_iff]
    rintro ⟨engine, hok⟩
    rw [h] at hok
    cases hok
  | @accepted engine engine' h hreal =>
    have husable := readOverride_isOk_iff.mp ⟨engine, h⟩
    rw [hbase] at h
    exact ⟨engine', rfl, Or.inr ⟨husable, takes_of_readOverride hbase h hreal⟩⟩

/-- The engine of a name depends on the entry of that name only. -/
theorem get?_eq_of_same_entry {config config' : Members} {table table' : EngineTable}
    (hnames : ((engineEntries config).map Prod.fst).Nodup)
    (hnames' : ((engineEntries config').map Prod.fst).Nodup)
    (h : (loadEngines config).result = .ok table) (h' : (loadEngines config').result = .ok table')
    {name : String} (hsame : (engineEntries config).get? name = (engineEntries config').get? name) :
    table.get? name = table'.get? name := by
  have ha := applied_of_loadEngines hnames h
  have ha' := applied_of_loadEngines hnames' h'
  cases hentry : (engineEntries config).get? name with
  | none =>
    rw [ha.others name (lookup_eq_none_iff_not_mem.mp hentry),
      ha'.others name (lookup_eq_none_iff_not_mem.mp (hsame.symm.trans hentry))]
  | some entry =>
    exact (ha.own name entry ((get?_eq_some_iff_mem hnames).mp hentry)).unique
      (ha'.own name entry ((get?_eq_some_iff_mem hnames').mp (hsame ▸ hentry)))

/-- The table of a configuration, which may be missing: the known names in their order, every engine
    under its own name, each one as its own entry tells and independent of all other entries, and
    one warning for every entry that cannot be used, in their order. -/
theorem loadEngines_entries (config : Option Members) {table : EngineTable}
    (hnames : ((engineEntries (config.getD [])).map Prod.fst).Nodup)
    (h : (loadEngines (config.getD [])).result = .ok table) :
    table.map Prod.fst = ["eslint", "htmlhint", "stylelint", "pyright"]
      ∧ (∀ name engine, (name, engine) ∈ table → engine.name = name)
      ∧ (∀ name base, Engine.defaults.get? name = some base →
        ∃ engine, table.get? name = some engine ∧
          EngineOf name base ((engineEntries (config.getD [])).get? name) engine)
      ∧ (∀ (config' : Option Members) (table' : EngineTable),
        ((engineEntries (config'.getD [])).map Prod.fst).Nodup →
        (loadEngines (config'.getD [])).result = .ok table' → ∀ name,
        (engineEntries (config.getD [])).get? name = (engineEntries (config'.getD [])).get? name →
        table.get? name = table'.get? name)
      ∧ (∀ entries, (config.getD []).get? "engines" = some (.table entries) →
        (loadEngines (config.getD [])).records = entries.filterMap entryWarning?
          ∧ ∀ entry ∈ entries, ((entryWarning? entry).isSome ↔ ¬ EntryUsable entry.1 entry.2)
            ∧ ∀ record, entryWarning? entry = some record → record.level = .warning) := by
  have ha := applied_of_loadEngines hnames h
  refine ⟨map_fst_of_loadEngines h, fun name engine hmem => ha.named defaults_named _ hmem,
    ?_, ?_, ?_⟩
  · intro name base hbase
    cases hentry : (engineEntries (config.getD [])).get? name with
    | none =>
      rw [ha.others name (lookup_eq_none_iff_not_mem.mp hentry)]
      exact ⟨base, hbase, rfl⟩
    | some entry =>
      exact engineOf_of_settled hbase
        (ha.own name entry ((get?_eq_some_iff_mem hnames).mp hentry))
  · intro config' table' hnames' h' name hsame
    exact get?_eq_of_same_entry hnames hnames' h h' hsame
  · intro entries hsection
    have hentries : engineEntries (config.getD []) = entries := by
      rw [engineEntries, hsection]
      rfl
    rw [(loadEngines_eq _).2 entries hsection, ha.warned, hentries]
    exact ⟨rfl, fun entry _ => ⟨isSome_entryWarning?_iff, fun _ => level_of_entryWarning?⟩⟩

/-- A configuration with one entry that can be used, one of an unknown engine and one with a broken
    setting. -/
def mixedConfig : Members :=
  [("engines", .table
    [("eslint", .table [("command", .text "eslint"), ("timeout", .int 30)]),
      ("rubocop", .table [("command", .text "rubocop")]),
      ("pyright", .table [("args", .list [.int 1, .int 2])])])]

/-- The mixed configuration keeps the four names, settles its script engine and gives a warning for
    each of the other two entries. -/
theorem loadEngines_entries_mixedConfig :
    ((engineEntries mixedConfig).map Prod.fst).Nodup
      ∧ ∃ table, (loadEngines mixedConfig).result = .ok table
        ∧ table.map Prod.fst = ["eslint", "htmlhint", "stylelint", "pyright"]
        ∧ (∃ engine, table.get? "eslint" = some engine
          ∧ EngineOf "eslint" Engine.eslint ((engineEntries mixedConfig).get? "eslint") engine)
        ∧ (loadEngines mixedConfig).records
          = (engineEntries mixedConfig).filterMap entryWarning? := by
  have hnames : ((engineEntries mixedConfig).map Prod.fst).Nodup := by decide +kernel
  have hok : (loadEngines mixedConfig).result.isOk := by decide +kernel
  obtain ⟨table, h⟩ : ∃ table, (loadEngines mixedConfig).result = .ok table := by
    cases hresult : (loadEngines mixedConfig).result with
    | error failure =>
      rw [hresult] at hok
      cases hok
    | ok table => exact ⟨table, rfl⟩
  obtain ⟨horder, -, hown, -, hwarned⟩ := loadEngines_entries (some mixedConfig) hnames h
  exact ⟨hnames, table, h, horder, hown "eslint" Engine.eslint rfl, (hwarned _ rfl).1⟩

end LintBroker
