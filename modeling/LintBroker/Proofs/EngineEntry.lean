/-
  LintBroker.Proofs.EngineEntry

  What one entry of the engine section does.  An entry is *usable* when it is a table
  for a known engine and every setting that it gives has its kind.  A usable entry
  gives the engine in force with exactly those settings replaced (`Engine.Takes`);
  any other entry is rejected as a whole.  Each setting is read by the same function
  with its own reader, so there is one lemma about all five.
-/
import LintBroker.Engine.Override
import LintBroker.Proofs.Trace

namespace LintBroker

open LintBroker.Number LintBroker.Text

variable {α : Type}

/-! ## One setting -/

/-- A setting after an entry: as the entry shows it when it is given, else the one in force. -/
def Setting (member : Option Datum) (shows : Datum → α → Prop) (inForce after : α) : Prop :=
  match member with
  | none => after = inForce
  | some value => shows value after

theorem given_eq_ok_iff {members : Members} {name : String} {inForce after : α}
    {read : Datum → Option α} {rejection : Rejection} :
    given members name inForce read rejection = .ok after ↔
      Setting (members.get? name) (fun value a => read value = some a) inForce after := by
  unfold given Setting
  cases members.get? name with
  | none => simp only [Except.ok.injEq, eq_comm]
  | some value =>
    cases h : read value with
    | none => simp [h]
    | some a => simp [h]

/-- A setting that holds of a reader holds of every way to show what the reader takes. -/
theorem Setting.imp {member : Option Datum} {shows shows' : Datum → α → Prop}
    {inForce after : α} (h : ∀ value a, shows value a → shows' value a)
    (hs : Setting member shows inForce after) : Setting member shows' inForce after := by
  cases member with
  | none => exact hs
  | some value => exact h value after hs

/-- A setting that is given is the one that its value shows. -/
theorem Setting.shown {member : Option Datum} {shows : Datum → α → Prop} {inForce after : α}
    (hs : Setting member shows inForce after) {value : Datum} (hv : member = some value) :
    shows value after := by
  subst hv
  exact hs

/-- There is a setting after an entry when the entry gives none or one that can be read. -/
theorem exists_setting {member : Option Datum} {shows : Datum → α → Prop} (inForce : α)
    (h : ∀ value, member = some value → ∃ a, shows value a) :
    ∃ after, Setting member shows inForce after := by
  cases member with
  | none => exact ⟨inForce, rfl⟩
  | some value => exact h value rfl

/-! ## Readers -/

theorem commandOf?_eq_some_iff {value : Datum} {s : String} :
    commandOf? value = some s ↔ value = .text s ∧ blank s = false := by
  cases value with
  | text t =>
    simp only [commandOf?, Datum.text.injEq]
    by_cases h : blank t
    · rw [if_pos h]
      constructor
      · intro hn
        cases hn
      · rintro ⟨rfl, hb⟩
        rw [h] at hb
        cases hb
    · rw [if_neg h]
      constructor
      · intro hs
        cases hs
        exact ⟨rfl, by simpa using h⟩
      · rintro ⟨rfl, -⟩
        rfl
  | _ => simp [commandOf?]

theorem text?_eq_some_iff {value : Datum} {s : String} :
    value.text? = some s ↔ value = .text s := by
  cases value <;> simp [Datum.text?]

theorem textItems?_eq_some_iff {items : List Datum} {texts : List String} :
    textItems? items = some texts ↔ items = texts.map .text := by
  induction items generalizing texts with
  | nil => cases texts <;> simp [textItems?]
  | cons item rest ih =>
    cases item with
    | text s =>
      simp only [textItems?, Option.map_eq_some_iff, ih]
      cases texts with
      | nil => simp
      | cons t ts =>
        simp only [List.cons.injEq, List.map_cons, Datum.text.injEq]
        constructor
        · rintro ⟨_, hrest, rfl, rfl⟩
          exact ⟨rfl, hrest⟩
        · rintro ⟨rfl, hrest⟩
          exact ⟨ts, hrest, rfl, rfl⟩
    | _ => cases texts <;> simp [textItems?]

theorem argsOf?_eq_some_iff {value : Datum} {texts : List String} :
    argsOf? value = some texts ↔ value = .list (texts.map .text) := by
  cases value with
  | list items => simp only [argsOf?, textItems?_eq_some_iff, Datum.list.injEq]
  | _ => simp [argsOf?]

theorem textMembers?_eq_some_iff {members : List (String × Datum)}
    {texts : List (String × String)} :
    textMembers? members = some texts ↔ members = texts.map fun p => (p.1, .text p.2) := by
  induction members generalizing texts with
  | nil => cases texts <;> simp [textMembers?]
  | cons member rest ih =>
    obtain ⟨name, value⟩ := member
    cases value with
    | text s =>
      simp only [textMembers?, Option.map_eq_some_iff, ih]
      cases texts with
      | nil => simp
      | cons t ts =>
        simp only [List.cons.injEq, List.map_cons, Prod.mk.injEq, Datum.text.injEq]
        constructor
        · rintro ⟨_, hrest, rfl, rfl⟩
          exact ⟨⟨rfl, rfl⟩, hrest⟩
        · rintro ⟨⟨rfl, rfl⟩, hrest⟩
          exact ⟨ts, hrest, rfl, rfl⟩
    | _ => cases texts <;> simp [textMembers?]

theorem envOf?_eq_some_iff {value : Datum} {texts : List (String × String)} :
    envOf? value = some texts ↔ value = .table (texts.map fun p => (p.1, .text p.2)) := by
  cases value with
  | table members => simp only [envOf?, textMembers?_eq_some_iff, Datum.table.injEq]
  | _ => simp [envOf?]

/-- The limit that a value sets: none for null, else the seconds that it gives as a binary
    number. -/
inductive ShowsLimit : Datum → Option Seconds → Prop where
  | none : ShowsLimit .null none
  | whole {n : Int} {x : Binary64} (h : Binary64.ofInt? n = some x) :
      ShowsLimit (.int n) (some (.real x))
  | real (x : Binary64) : ShowsLimit (.float x) (some (.real x))

/-- A value that a limit can be read from: null, or a number that is not zero or below. -/
def IsLimit (value : Datum) : Prop :=
  value = .null ∨ (∃ n : Int, value = .int n ∧ 0 < n)
    ∨ ∃ x : Binary64, value = .float x ∧ x.nonpositive = false

theorem isSome_timeoutOf?_iff {value : Datum} : (timeoutOf? value).isSome ↔ IsLimit value := by
  unfold IsLimit
  cases value with
  | null => simp [timeoutOf?]
  | int n =>
    by_cases h : n ≤ 0
    · simp [timeoutOf?, h]
    · have hn : 0 < n := by omega
      simp [timeoutOf?, h, hn]
  | float x =>
    cases h : x.nonpositive with
    | true => simp [timeoutOf?, h]
    | false => simp [timeoutOf?, h]
  | _ => simp [timeoutOf?]

/-- A limit that was read, put as a binary number, is the one that the value shows. -/
theorem showsLimit_of_withRealTimeout {value : Datum} {engine engine' : Engine}
    (h : timeoutOf? value = some engine.timeout) (hreal : engine.withRealTimeout = .ok engine') :
    ShowsLimit value engine'.timeout := by
  cases value with
  | null =>
    have ht : engine.timeout = none := by simpa [timeoutOf?] using h.symm
    rw [Engine.withRealTimeout, ht] at hreal
    cases hreal
    rw [ht]
    exact .none
  | int n =>
    by_cases hn : n ≤ 0
    · simp [timeoutOf?, hn] at h
    · have ht : engine.timeout = some (.whole n) := by simpa [timeoutOf?, hn] using h.symm
      rw [Engine.withRealTimeout, ht] at hreal
      cases hx : Binary64.ofInt? n with
      | none =>
        simp [hx] at hreal
      | some x =>
        simp only [hx, Except.ok.injEq] at hreal
        subst hreal
        exact .whole hx
  | float x =>
    cases hx : x.nonpositive with
    | true => simp [timeoutOf?, hx] at h
    | false =>
      have ht : engine.timeout = some (.real x) := by simpa [timeoutOf?, hx] using h.symm
      rw [Engine.withRealTimeout, ht] at hreal
      cases hreal
      rw [ht]
      exact .real x
  | _ => simp [timeoutOf?] at h

/-- Putting the limit as a binary number changes nothing else. -/
theorem eq_of_withRealTimeout {engine engine' : Engine} (h : engine.withRealTimeout = .ok engine') :
    engine' = { engine with timeout := engine'.timeout } := by
  unfold Engine.withRealTimeout at h
  split at h
  · split at h
    · cases h
      rfl
    · cases h
  · cases h
    rfl

/-! ## All settings of an entry -/

/-- Every setting that an entry gives has its kind. -/
structure Members.Usable (members : Members) : Prop where
  command : ∀ value, members.get? "command" = some value → ∃ s, value = .text s ∧ blank s = false
  description : ∀ value, members.get? "description" = some value → ∃ s, value = .text s
  args : ∀ value, members.get? "args" = some value →
    ∃ texts : List String, value = .list (texts.map .text)
  env : ∀ value, members.get? "env" = some value →
    ∃ texts : List (String × String), value = .table (texts.map fun p => (p.1, .text p.2))
  timeout : ∀ value, members.get? "timeout" = some value → IsLimit value

/-- An engine with the settings that an entry gives, and all others as they were. -/
structure Engine.Takes (base : Engine) (members : Members) (engine : Engine) : Prop where
  name : engine.name = base.name
  command : Setting (members.get? "command") (fun value s => value = .text s)
    base.command engine.command
  description : Setting (members.get? "description") (fun value s => value = .text s)
    base.description engine.description
  args : Setting (members.get? "args")
    (fun value (texts : List String) => value = .list (texts.map .text))
    base.args engine.args
  env : Setting (members.get? "env")
    (fun value (texts : List (String × String)) =>
      value = .table (texts.map fun p => (p.1, .text p.2))) base.env engine.env
  timeout : Setting (members.get? "timeout") ShowsLimit base.timeout engine.timeout

/-- The settings as the readers take them, one after the other. -/
theorem overridden_eq_ok_iff {base engine : Engine} {members : Members} :
    base.overridden members = .ok engine ↔ engine.name = base.name
      ∧ Setting (members.get? "command") (fun v a => commandOf? v = some a) base.command
        engine.command
      ∧ Setting (members.get? "description") (fun v a => v.text? = some a) base.description
        engine.description
      ∧ Setting (members.get? "args") (fun v a => argsOf? v = some a) base.args engine.args
      ∧ Setting (members.get? "env") (fun v a => envOf? v = some a) base.env engine.env
      ∧ Setting (members.get? "timeout") (fun v a => timeoutOf? v = some a) base.timeout
        engine.timeout := by
  unfold Engine.overridden
  simp only [except_bind_eq_ok, given_eq_ok_iff]
  constructor
  · rintro ⟨command, hcommand, description, hdescription, args, hargs, env, henv, timeout,
      htimeout, hengine⟩
    cases hengine
    exact ⟨rfl, hcommand, hdescription, hargs, henv, htimeout⟩
  · rintro ⟨hname, hcommand, hdescription, hargs, henv, htimeout⟩
    refine ⟨_, hcommand, _, hdescription, _, hargs, _, henv, _, htimeout, ?_⟩
    cases engine
    cases hname
    rfl

/-- All or none: an entry gives an engine exactly if all the settings in it can be used. -/
theorem overridden_isOk_iff {base : Engine} {members : Members} :
    (∃ engine, base.overridden members = .ok engine) ↔ Members.Usable members := by
  constructor
  · rintro ⟨engine, h⟩
    obtain ⟨-, hcommand, hdescription, hargs, henv, htimeout⟩ := overridden_eq_ok_iff.mp h
    refine ⟨?_, ?_, ?_, ?_, ?_⟩
    · exact fun _ hv => ⟨_, commandOf?_eq_some_iff.mp (hcommand.shown hv)⟩
    · exact fun _ hv => ⟨_, text?_eq_some_iff.mp (hdescription.shown hv)⟩
    · exact fun _ hv => ⟨_, argsOf?_eq_some_iff.mp (hargs.shown hv)⟩
    · exact fun _ hv => ⟨_, envOf?_eq_some_iff.mp (henv.shown hv)⟩
    · intro value hv
      have hread := htimeout.shown hv
      exact isSome_timeoutOf?_iff.mp (Option.isSome_iff_exists.mpr ⟨_, hread⟩)
  · intro h
    obtain ⟨command, hcommand⟩ := exists_setting base.command fun value hv =>
      (h.command value hv).imp fun _ hs => commandOf?_eq_some_iff.mpr hs
    obtain ⟨description, hdescription⟩ := exists_setting base.description fun value hv =>
      (h.description value hv).imp fun _ hs => text?_eq_some_iff.mpr hs
    obtain ⟨args, hargs⟩ := exists_setting base.args fun value hv =>
      (h.args value hv).imp fun _ hs => argsOf?_eq_some_iff.mpr hs
    obtain ⟨env, henv⟩ := exists_setting base.env fun value hv =>
      (h.env value hv).imp fun _ hs => envOf?_eq_some_iff.mpr hs
    obtain ⟨timeout, htimeout⟩ := exists_setting base.timeout fun value hv =>
      Option.isSome_iff_exists.mp (isSome_timeoutOf?_iff.mpr (h.timeout value hv))
    exact ⟨{ base with command, description, args, env, timeout },
      overridden_eq_ok_iff.mpr ⟨rfl, hcommand, hdescription, hargs, henv, htimeout⟩⟩

/-- The engine of an entry, its limit put as a binary number, has exactly the given settings
    replaced. -/
theorem takes_of_overridden {base engine engine' : Engine} {members : Members}
    (hbase : ∀ n, base.timeout ≠ some (.whole n)) (h : base.overridden members = .ok engine)
    (hreal : engine.withRealTimeout = .ok engine') : base.Takes members engine' := by
  obtain ⟨hname, hcommand, hdescription, hargs, henv, htimeout⟩ := overridden_eq_ok_iff.mp h
  have heq := eq_of_withRealTimeout hreal
  have hlimit : Setting (members.get? "timeout") ShowsLimit base.timeout engine'.timeout := by
    cases hv : members.get? "timeout" with
    | none =>
      rw [hv] at htimeout
      have ht : engine.timeout = base.timeout := htimeout
      -- The limit in force is no whole number, so it stays as it is.
      have hsame : engine' = engine := by
        unfold Engine.withRealTimeout at hreal
        split at hreal
        · rename_i n hn
          exact absurd (ht.symm.trans hn) (hbase n)
        · cases hreal
          rfl
      rw [hsame]
      exact ht
    | some value => exact showsLimit_of_withRealTimeout (htimeout.shown hv) hreal
  rw [heq]
  exact ⟨hname, hcommand.imp fun _ _ hs => (commandOf?_eq_some_iff.mp hs).1,
    hdescription.imp fun _ _ hs => text?_eq_some_iff.mp hs,
    hargs.imp fun _ _ hs => argsOf?_eq_some_iff.mp hs,
    henv.imp fun _ _ hs => envOf?_eq_some_iff.mp hs, hlimit⟩

end LintBroker
