/-
  LintBroker.Proofs.Trace

  Computations that can fail, seen from outside.  `Except` sequences and rows of
  steps are opened by one lemma each, so no later proof unfolds a monad.  A traced
  computation keeps *within* a budget when it fails only as an engine may, logs no
  error of its own and asks for no more engines than the budget; every combinator
  has its rule, and the budgets of steps in a row add up.
-/
import LintBroker.Traced
import Mathlib.Data.List.Forall2

namespace LintBroker

open LintBroker.Journal

variable {ε α β γ : Type}

/-! ## Results -/

/-- A sequence gives a value when its first step does and the second one goes on from it. -/
theorem except_bind_eq_ok {x : Except ε α} {next : α → Except ε β} {b : β} :
    (x >>= next) = .ok b ↔ ∃ a, x = .ok a ∧ next a = .ok b := by
  cases x with
  | error e => simp [bind, Except.bind]
  | ok a => simp [bind, Except.bind]

/-- A sequence fails in its first step, or in the second one after the first has given a value. -/
theorem except_bind_eq_error {x : Except ε α} {next : α → Except ε β} {e : ε} :
    (x >>= next) = .error e ↔ x = .error e ∨ ∃ a, x = .ok a ∧ next a = .error e := by
  cases x with
  | error e' => simp [bind, Except.bind]
  | ok a => simp [bind, Except.bind]

/-- A value that is made of another one comes of a success. -/
theorem except_map_eq_ok {f : α → β} {x : Except ε α} {b : β} :
    x.map f = .ok b ↔ ∃ a, x = .ok a ∧ f a = b := by
  cases x with
  | error e => simp [Except.map]
  | ok a => simp [Except.map]

theorem exists_eq_ok_of_isOk {x : Except ε α} (h : x.isOk = true) : ∃ a, x = .ok a := by
  cases x with
  | error e => cases h
  | ok a => exact ⟨a, rfl⟩

/-- A row of steps that all give a value gives the row of their values. -/
theorem mapM_eq_ok_map {f : α → Except ε β} {g : α → β} {row : List α}
    (h : ∀ a ∈ row, f a = .ok (g a)) : row.mapM f = .ok (row.map g) := by
  induction row with
  | nil => rfl
  | cons a rest ih =>
    have hrest := ih fun b hb => h b (List.mem_cons_of_mem _ hb)
    rw [List.mapM_cons, h a (List.mem_cons_self ..), hrest]
    rfl

/-- A row that fails does so with the failure of one of its steps. -/
theorem exists_of_mapM_eq_error {f : α → Except ε β} {row : List α} {e : ε}
    (h : row.mapM f = .error e) : ∃ a ∈ row, f a = .error e := by
  induction row with
  | nil => cases h
  | cons a rest ih =>
    rw [List.mapM_cons] at h
    rcases except_bind_eq_error.mp h with ha | ⟨b, -, h⟩
    · exact ⟨a, List.mem_cons_self .., ha⟩
    · rcases except_bind_eq_error.mp h with hrest | ⟨bs, -, h⟩
      · obtain ⟨c, hc, hfc⟩ := ih hrest
        exact ⟨c, List.mem_cons_of_mem _ hc, hfc⟩
      · cases h

/-- A row that gives values has one of every step, in their order. -/
theorem forall₂_of_mapM_eq_ok {f : α → Except ε β} {row : List α} {bs : List β}
    (h : row.mapM f = .ok bs) : List.Forall₂ (fun a b => f a = .ok b) row bs := by
  induction row generalizing bs with
  | nil =>
    cases h
    exact .nil
  | cons a rest ih =>
    rw [List.mapM_cons] at h
    obtain ⟨b, hb, h⟩ := except_bind_eq_ok.mp h
    obtain ⟨rest', hrest, h⟩ := except_bind_eq_ok.mp h
    cases h
    exact .cons hb (ih hrest)

/-- What is related to a row member by member has a member for each of its members. -/
theorem exists_of_mem_of_forall₂ {R : α → β → Prop} {row : List α} {bs : List β}
    (h : List.Forall₂ R row bs) {a : α} (ha : a ∈ row) : ∃ b ∈ bs, R a b := by
  induction h with
  | nil => cases ha
  | @cons c b rest bs hcb _ ih =>
    rcases List.mem_cons.mp ha with rfl | ha
    · exact ⟨b, List.mem_cons_self .., hcb⟩
    · obtain ⟨b', hb', hab'⟩ := ih ha
      exact ⟨b', List.mem_cons_of_mem _ hb', hab'⟩

/-- Rows of rows are one row. -/
theorem map_flatten_mapM {f : β → Except ε γ} {parts : α → List β} (row : List α) :
    (row.mapM fun a => (parts a).mapM f).map List.flatten = (row.flatMap parts).mapM f := by
  induction row with
  | nil => rfl
  | cons a rest ih =>
    rw [List.mapM_cons, List.flatMap_cons, List.mapM_append, ← ih]
    cases (parts a).mapM f with
    | error e => rfl
    | ok bs =>
      cases rest.mapM fun a => (parts a).mapM f with
      | error e => rfl
      | ok bss => rfl

/-! ## Traces -/

namespace Traced

theorem bind_of_ok {x : Traced α} {next : α → Traced β} {a : α} (h : x.result = .ok a) :
    x >>= next = ⟨(next a).result, x.records ++ (next a).records,
      x.requests ++ (next a).requests⟩ := by
  show Traced.bind x next = _
  rw [Traced.bind, h]

theorem bind_of_error {x : Traced α} {next : α → Traced β} {failure : Failure}
    (h : x.result = .error failure) : x >>= next = ⟨.error failure, x.records, x.requests⟩ := by
  show Traced.bind x next = _
  rw [Traced.bind, h]

/-- A sequence gives a value when its first step does and the second one goes on from it. -/
theorem result_bind_eq_ok {x : Traced α} {next : α → Traced β} {b : β} :
    (x >>= next).result = .ok b ↔ ∃ a, x.result = .ok a ∧ (next a).result = .ok b := by
  cases h : x.result with
  | error failure => simp [bind_of_error h]
  | ok a => simp [bind_of_ok h]

/-- A step without a trace, in front of another one. -/
theorem result_ofExcept_bind_eq_ok {result : Except Failure α} {next : α → Traced β} {b : β} :
    (ofExcept result >>= next).result = .ok b ↔ ∃ a, result = .ok a ∧ (next a).result = .ok b :=
  result_bind_eq_ok

theorem handle_of_ok {x : Traced α} {handler : Failure → Traced α} {a : α}
    (h : x.result = .ok a) : x.handle handler = x := by
  rw [handle, h]

theorem handle_of_error {x : Traced α} {handler : Failure → Traced α} {failure : Failure}
    (h : x.result = .error failure) :
    x.handle handler = ⟨(handler failure).result, x.records ++ (handler failure).records,
      x.requests ++ (handler failure).requests⟩ := by
  rw [handle, h]

/-- A step that gives its value without a trace leads straight to the next one. -/
theorem ofExcept_ok_bind (a : α) (next : α → Traced β) : ofExcept (.ok a) >>= next = next a := rfl

theorem ofExcept_error_bind (failure : Failure) (next : α → Traced β) :
    ofExcept (.error failure) >>= next = fail failure := rfl

/-- A step of an analysis: it fails only as an engine may, logs no error of its own, and asks for
    at most `budget` engines to be run. -/
structure Within (budget : Nat) (x : Traced α) : Prop where
  isFault_of_error : ∀ failure, x.result = .error failure → failure.isFault = true
  level_ne_error : ∀ record ∈ x.records, record.level ≠ .error
  length_requests_le : x.requests.length ≤ budget

theorem Within.requests_eq_nil {x : Traced α} (h : x.Within 0) : x.requests = [] :=
  List.eq_nil_of_length_eq_zero (Nat.le_zero.mp h.length_requests_le)

theorem within_pure (a : α) : (pure a : Traced α).Within 0 where
  isFault_of_error _ h := nomatch h
  level_ne_error _ h := nomatch h
  length_requests_le := Nat.le_refl 0

theorem within_fail {failure : Failure} (h : failure.isFault = true) :
    (fail failure : Traced α).Within 0 where
  isFault_of_error f hf := by
    cases hf
    exact h
  level_ne_error _ h := nomatch h
  length_requests_le := Nat.le_refl 0

theorem within_ofExcept {result : Except Failure α}
    (h : ∀ failure, result = .error failure → failure.isFault = true) :
    (ofExcept result).Within 0 where
  isFault_of_error := h
  level_ne_error _ h := nomatch h
  length_requests_le := Nat.le_refl 0

theorem within_log {record : Record} (h : record.level ≠ .error) : (log record).Within 0 where
  isFault_of_error _ h := nomatch h
  level_ne_error r hr := by
    rw [List.mem_singleton.mp hr]
    exact h
  length_requests_le := Nat.le_refl 0

/-- Budgets of steps in a row add up. -/
theorem Within.bind {n m : Nat} {x : Traced α} {next : α → Traced β} (hx : x.Within n)
    (hnext : ∀ a, (next a).Within m) : (x >>= next).Within (n + m) := by
  cases h : x.result with
  | error failure =>
    rw [bind_of_error h]
    refine ⟨?_, hx.level_ne_error, Nat.le_add_right_of_le hx.length_requests_le⟩
    intro f hf
    cases hf
    exact hx.isFault_of_error failure h
  | ok a =>
    rw [bind_of_ok h]
    refine ⟨(hnext a).isFault_of_error, ?_, ?_⟩
    · intro record hrecord
      rcases List.mem_append.mp hrecord with hr | hr
      · exact hx.level_ne_error record hr
      · exact (hnext a).level_ne_error record hr
    · rw [List.length_append]
      exact Nat.add_le_add hx.length_requests_le (hnext a).length_requests_le

/-- Steps that ask for no engine leave the requests as they are. -/
theorem requests_bind_of_within {x : Traced α} {next : α → Traced β}
    (hnext : ∀ a, (next a).Within 0) : (x >>= next).requests = x.requests := by
  cases h : x.result with
  | error failure => rw [bind_of_error h]
  | ok a =>
    rw [bind_of_ok h]
    show x.requests ++ (next a).requests = x.requests
    rw [(hnext a).requests_eq_nil, List.append_nil]

/-- A handler that keeps within a budget of its own adds it to that of what it handles. -/
theorem Within.handle {n m : Nat} {x : Traced α} {handler : Failure → Traced α}
    (hx : x.Within n)
    (hhandler : ∀ failure, failure.isFault = true → (handler failure).Within m) :
    (x.handle handler).Within (n + m) := by
  cases h : x.result with
  | ok a =>
    rw [handle_of_ok h]
    exact ⟨hx.isFault_of_error, hx.level_ne_error,
      Nat.le_add_right_of_le hx.length_requests_le⟩
  | error failure =>
    have hh := hhandler failure (hx.isFault_of_error failure h)
    rw [handle_of_error h]
    refine ⟨hh.isFault_of_error, ?_, ?_⟩
    · intro record hrecord
      rcases List.mem_append.mp hrecord with hr | hr
      · exact hx.level_ne_error record hr
      · exact hh.level_ne_error record hr
    · rw [List.length_append]
      exact Nat.add_le_add hx.length_requests_le hh.length_requests_le

end Traced

end LintBroker
