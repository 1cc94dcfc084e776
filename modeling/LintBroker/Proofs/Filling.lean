/-
  LintBroker.Proofs.Filling

  Filling in the arguments of an engine.  A template is a row of slots: characters and
  the places of the file and of the configuration.  All places are meant to be filled at
  once, and the file is filled in first.  So a text that only then looks like a place of
  the configuration is filled, too, and an argument comes out as meant exactly if there is
  no such text in it (`fillArg_eq_filledAtOnce_iff`).
-/
import LintBroker.Engine.Command
import Mathlib.Data.List.Forall2

namespace LintBroker

open LintBroker.Shell

/-! ## Templates -/

/-- A part of a template: a character that stands for itself, or a place. -/
inductive Slot where
  | char (c : Char)
  | file
  | config
  deriving DecidableEq

/-- The parts of a template from left to right. -/
def slots : List Char → List Slot
  | [] => []
  | '\x7b' :: 'f' :: 'i' :: 'l' :: 'e' :: '\x7d' :: rest => .file :: slots rest
  | '\x7b' :: 'c' :: 'o' :: 'n' :: 'f' :: 'i' :: 'g' :: '\x7d' :: rest => .config :: slots rest
  | c :: rest => .char c :: slots rest

/-- What stands in a slot that is filled. -/
def Slot.filled (file config : List Char) : Slot → List Char
  | .char c => [c]
  | .file => file
  | .config => config

/-- An argument with all its places filled at the same time. -/
def filledAtOnce (file config arg : String) : String :=
  String.ofList ((slots arg.toList).flatMap (Slot.filled file.toList config.toList))

/-! ## Occurrences -/

/-- How many times a mark stands in a text. -/
def occurrences (mark : List Char) : List Char → Nat
  | [] => 0
  | c :: rest => (if mark.isPrefixOf (c :: rest) then 1 else 0) + occurrences mark rest

section Mark

variable {b : Char} {m value : List Char}

/-- A mark whose first character comes only once in it begins nowhere in a text without that
    character. -/
theorem occurrences_append_of_not_mem {front : List Char} (h : b ∉ front) (rest : List Char) :
    occurrences (b :: m) (front ++ rest) = occurrences (b :: m) rest := by
  induction front with
  | nil => rfl
  | cons c others ih =>
    obtain ⟨hc, hothers⟩ := List.ne_and_not_mem_of_not_mem_cons h
    have hbegins : (b :: m).isPrefixOf (c :: (others ++ rest)) = false := by
      rw [List.isPrefixOf, beq_eq_false_iff_ne.mpr hc, Bool.false_and]
    rw [List.cons_append, occurrences, hbegins, ih hothers]
    simp

theorem occurrences_mark (h : b ∉ m) (rest : List Char) :
    occurrences (b :: m) ((b :: m) ++ rest) = 1 + occurrences (b :: m) rest := by
  have hbegins : (b :: m).isPrefixOf (b :: (m ++ rest)) = true :=
    List.isPrefixOf_iff_prefix.mpr ⟨rest, rfl⟩
  rw [List.cons_append, occurrences, if_pos hbegins, occurrences_append_of_not_mem h]

theorem occurrences_cons_of_no_mark {c : Char} {rest : List Char}
    (h : ¬ (b :: m) <+: c :: rest) :
    occurrences (b :: m) (c :: rest) = occurrences (b :: m) rest := by
  rw [occurrences, if_neg fun hbegins => h (List.isPrefixOf_iff_prefix.mp hbegins), Nat.zero_add]

/-- A mark is nowhere in a text exactly if it does not occur. -/
theorem occurrences_eq_zero_iff {cs : List Char} :
    occurrences (b :: m) cs = 0 ↔ ¬ (b :: m) <:+: cs := by
  induction cs with
  | nil => simp [occurrences]
  | cons c rest ih =>
    rw [List.infix_cons_iff, not_or, ← ih, occurrences, Nat.add_eq_zero_iff]
    refine and_congr_left fun _ => ?_
    rw [← List.isPrefixOf_iff_prefix]
    split <;> simp_all

/-- A text is taken apart from its front: it begins with the mark, or with a character that begins
    none. -/
theorem mark_induction {P : List Char → Prop} (mark : List Char) (hmark : mark ≠ [])
    (nil : P []) (met : ∀ rest, P rest → P (mark ++ rest))
    (char : ∀ c rest, ¬ mark <+: c :: rest → P rest → P (c :: rest)) (cs : List Char) : P cs := by
  induction hn : cs.length using Nat.strongRecOn generalizing cs with
  | ind n ih =>
    cases cs with
    | nil => exact nil
    | cons c rest =>
      by_cases hbegins : mark <+: c :: rest
      · obtain ⟨others, hothers⟩ := hbegins
        have hshorter : others.length < n := by
          have hlength := congrArg List.length hothers
          have hpos := List.length_pos_of_ne_nil hmark
          rw [List.length_append] at hlength
          omega
        rw [← hothers]
        exact met others (ih _ hshorter others rfl)
      · refine char c rest hbegins (ih rest.length ?_ rest rfl)
        rw [← hn, List.length_cons]
        exact Nat.lt_succ_self _

/-! ## Filling one mark -/

theorem fillFrom_skip (mark value front rest : List Char) :
    fillFrom mark value front.length (front ++ rest) = fillFrom mark value 0 rest := by
  induction front with
  | nil => rfl
  | cons c others ih => exact ih

/-- A mark that is met is filled. -/
theorem fillFrom_mark (value rest : List Char) :
    fillFrom (b :: m) value 0 ((b :: m) ++ rest) = value ++ fillFrom (b :: m) value 0 rest := by
  have hbegins : (b :: m).isPrefixOf (b :: (m ++ rest)) = true :=
    List.isPrefixOf_iff_prefix.mpr ⟨rest, rfl⟩
  rw [List.cons_append, fillFrom, if_pos hbegins]
  exact congrArg (value ++ ·) (fillFrom_skip (b :: m) value m rest)

theorem fillFrom_cons_of_no_mark {mark value : List Char} {c : Char} {rest : List Char}
    (h : ¬ mark <+: c :: rest) :
    fillFrom mark value 0 (c :: rest) = c :: fillFrom mark value 0 rest := by
  rw [fillFrom, if_neg fun hbegins => h (List.isPrefixOf_iff_prefix.mp hbegins)]

/-- Filling a mark with itself changes nothing. -/
theorem fillFrom_self (cs : List Char) : fillFrom (b :: m) (b :: m) 0 cs = cs := by
  induction cs using mark_induction (b :: m) (List.cons_ne_nil b m) with
  | nil => rfl
  | met rest ih => rw [fillFrom_mark, ih]
  | char c rest h ih => rw [fillFrom_cons_of_no_mark h, ih]

theorem length_fillFrom (h : b ∉ m) (value cs : List Char) :
    (fillFrom (b :: m) value 0 cs).length + (b :: m).length * occurrences (b :: m) cs
      = cs.length + value.length * occurrences (b :: m) cs := by
  induction cs using mark_induction (b :: m) (List.cons_ne_nil b m) with
  | nil => rfl
  | met rest ih =>
    rw [fillFrom_mark, occurrences_mark h, List.length_append, List.length_append, Nat.mul_add,
      Nat.mul_add]
    omega
  | char c rest hc ih =>
    rw [fillFrom_cons_of_no_mark hc, occurrences_cons_of_no_mark hc]
    generalize (b :: m).length = k at ih ⊢
    rw [List.length_cons, List.length_cons]
    omega

/-! ## Filling beside other text -/

/-- The text of a row of characters and of places, with the same text in every place. -/
def spelled (text : List Char) : List (Option Char) → List Char
  | [] => []
  | some c :: rest => c :: spelled text rest
  | none :: rest => text ++ spelled text rest

theorem spelled_append (text : List Char) (row others : List (Option Char)) :
    spelled text (row ++ others) = spelled text row ++ spelled text others := by
  induction row with
  | nil => rfl
  | cons cell rest ih =>
    cases cell with
    | none => rw [List.cons_append, spelled, spelled, ih, List.append_assoc]
    | some c => rw [List.cons_append, spelled, spelled, ih, List.cons_append]

theorem length_spelled (text : List Char) (row : List (Option Char)) :
    (spelled text row).length + row.count none = row.length + text.length * row.count none := by
  induction row with
  | nil => rfl
  | cons cell rest ih =>
    cases cell with
    | none =>
      rw [spelled, List.length_append, List.count_cons_self, List.length_cons, Nat.mul_succ]
      omega
    | some c =>
      rw [spelled, List.length_cons, List.count_cons_of_ne (by simp), List.length_cons]
      omega

/-- A text without the first character of the mark that stands at the front of a row stands there
    for itself, whatever is put in the places. -/
theorem prefix_spelled {front : List Char} (h : b ∉ front) (value : List Char)
    {row : List (Option Char)} (hfront : front <+: spelled (b :: m) row) :
    front <+: spelled value row := by
  induction front generalizing row with
  | nil => exact List.nil_prefix
  | cons c others ih =>
    obtain ⟨hc, hothers⟩ := List.ne_and_not_mem_of_not_mem_cons h
    cases row with
    | nil => exact hfront
    | cons cell rest =>
      cases cell with
      | none => exact absurd (List.cons_prefix_cons.mp hfront).1.symm hc
      | some d =>
        obtain ⟨rfl, hrest⟩ := List.cons_prefix_cons.mp hfront
        exact List.cons_prefix_cons.mpr ⟨rfl, ih hothers hrest⟩

/-- The mark occurs in every place that it is put in. -/
theorem count_le_occurrences (h : b ∉ m) (row : List (Option Char)) :
    row.count none ≤ occurrences (b :: m) (spelled (b :: m) row) := by
  induction row with
  | nil => exact Nat.le_refl 0
  | cons cell rest ih =>
    cases cell with
    | none =>
      rw [spelled, occurrences_mark h, List.count_cons_self]
      omega
    | some c =>
      rw [spelled, occurrences, List.count_cons_of_ne (by simp)]
      exact Nat.le_add_left_of_le ih

/-- If the mark occurs nowhere else, then just the places of the row are filled. -/
theorem fillFrom_spelled (h : b ∉ m) (value : List Char) {row : List (Option Char)}
    (hcount : occurrences (b :: m) (spelled (b :: m) row) = row.count none) :
    fillFrom (b :: m) value 0 (spelled (b :: m) row) = spelled value row := by
  induction row with
  | nil => rfl
  | cons cell rest ih =>
    cases cell with
    | none =>
      rw [spelled, occurrences_mark h, List.count_cons_self] at hcount
      rw [spelled, spelled, fillFrom_mark, ih (by omega)]
    | some c =>
      have hleast := count_le_occurrences h rest
      rw [spelled, List.count_cons_of_ne (by simp)] at hcount
      have hbegins : ¬ (b :: m) <+: c :: spelled (b :: m) rest := by
        intro hbegins
        rw [occurrences, if_pos (List.isPrefixOf_iff_prefix.mpr hbegins)] at hcount
        omega
      rw [occurrences_cons_of_no_mark hbegins] at hcount
      rw [spelled, spelled, fillFrom_cons_of_no_mark hbegins, ih hcount]

/-- If just the places of the row are filled, then the mark occurs nowhere else, unless it is filled
    with itself. -/
theorem occurrences_of_fillFrom_spelled (h : b ∉ m) {value : List Char} (hvalue : value ≠ b :: m)
    {row : List (Option Char)}
    (hfill : fillFrom (b :: m) value 0 (spelled (b :: m) row) = spelled value row) :
    occurrences (b :: m) (spelled (b :: m) row) = row.count none := by
  by_cases hlength : value.length = (b :: m).length
  · induction row with
    | nil => rfl
    | cons cell rest ih =>
      cases cell with
      | none =>
        rw [spelled, spelled, fillFrom_mark, List.append_cancel_left_eq] at hfill
        rw [spelled, occurrences_mark h, List.count_cons_self, ih hfill, Nat.add_comm]
      | some c =>
        rw [List.count_cons_of_ne (by simp)]
        rw [spelled, spelled] at hfill
        rw [spelled]
        by_cases hbegins : (b :: m) <+: c :: spelled (b :: m) rest
        · -- The text of that length that is put there would be the mark.
          obtain ⟨hc, hrest⟩ := List.cons_prefix_cons.mp hbegins
          have hstays : (b :: m) <+: c :: spelled value rest :=
            List.cons_prefix_cons.mpr ⟨hc, prefix_spelled h value hrest⟩
          obtain ⟨others, hothers⟩ := hbegins
          rw [← hothers, fillFrom_mark] at hfill
          have hfirst : value <+: c :: spelled value rest := ⟨_, hfill⟩
          exact absurd ((List.prefix_of_prefix_length_le hfirst hstays
            (Nat.le_of_eq hlength)).eq_of_length hlength) hvalue
        · rw [fillFrom_cons_of_no_mark hbegins, List.cons.injEq] at hfill
          rw [occurrences_cons_of_no_mark hbegins, ih hfill.2]
  · -- Every further text that is filled changes the length.
    have hleast := count_le_occurrences h row
    have hafter := length_fillFrom h value (spelled (b :: m) row)
    rw [hfill] at hafter
    have hbefore := length_spelled (b :: m) row
    have hmeant := length_spelled value row
    obtain ⟨more, hmore⟩ := Nat.exists_eq_add_of_le hleast
    rw [hmore, Nat.mul_add, Nat.mul_add] at hafter
    have hsame : (b :: m).length * more = value.length * more := by omega
    rcases Nat.eq_zero_or_pos more with rfl | hpos
    · exact hmore
    · exact absurd (Nat.eq_of_mul_eq_mul_right hpos hsame).symm hlength

end Mark

/-! ## The two places -/

/-- A row of slots with the file filled in: the places of the configuration are left. -/
def Slot.cells (file : List Char) : Slot → List (Option Char)
  | .char c => [some c]
  | .file => file.map some
  | .config => [none]

theorem spelled_map_some (text cs : List Char) : spelled text (cs.map some) = cs := by
  induction cs with
  | nil => rfl
  | cons c rest ih => rw [List.map_cons, spelled, ih]

theorem spelled_cells (file text : List Char) (row : List Slot) :
    spelled text (row.flatMap (Slot.cells file)) = row.flatMap (Slot.filled file text) := by
  induction row with
  | nil => rfl
  | cons slot rest ih =>
    rw [List.flatMap_cons, List.flatMap_cons, spelled_append, ih]
    cases slot with
    | char c => rfl
    | file => rw [Slot.cells, spelled_map_some, Slot.filled]
    | config => rw [Slot.cells, spelled, spelled, List.append_nil, Slot.filled]

theorem count_cells (file : List Char) (row : List Slot) :
    (row.flatMap (Slot.cells file)).count none = row.count .config := by
  induction row with
  | nil => rfl
  | cons slot rest ih =>
    rw [List.flatMap_cons, List.count_append, ih, List.count_cons, Nat.add_comm]
    congr 1
    cases slot with
    | char c => rfl
    | file =>
      rw [Slot.cells, List.count_eq_zero_of_not_mem]
      · rfl
      · simp
    | config => rfl

/-- The characters of the place of the file behind its opening brace. -/
def fileRest : List Char := ['f', 'i', 'l', 'e', '\x7d']

/-- The characters of the place of the configuration behind its opening brace. -/
def configRest : List Char := ['c', 'o', 'n', 'f', 'i', 'g', '\x7d']

theorem toList_filePlace : Engine.filePlace.toList = '\x7b' :: fileRest := by decide +kernel

theorem toList_configPlace : Engine.configPlace.toList = '\x7b' :: configRest := by decide +kernel

theorem fillFrom_append_of_not_mem {b : Char} {m front : List Char} (h : b ∉ front)
    (value rest : List Char) :
    fillFrom (b :: m) value 0 (front ++ rest) = front ++ fillFrom (b :: m) value 0 rest := by
  induction front with
  | nil => rfl
  | cons c others ih =>
    obtain ⟨hc, hothers⟩ := List.ne_and_not_mem_of_not_mem_cons h
    have hbegins : ¬ (b :: m) <+: c :: (others ++ rest) :=
      fun hbegins => hc (List.cons_prefix_cons.mp hbegins).1
    rw [List.cons_append, fillFrom_cons_of_no_mark hbegins, ih hothers, List.cons_append]

/-- Filling in the file leaves every other slot of a template as it is. -/
theorem fillFrom_file (file cs : List Char) :
    fillFrom ('\x7b' :: fileRest) file 0 cs
      = (slots cs).flatMap (Slot.filled file ('\x7b' :: configRest)) := by
  induction cs using slots.induct with
  | case1 => rfl
  | case2 rest ih =>
    rw [slots, List.flatMap_cons, ← ih]
    exact fillFrom_mark file rest
  | case3 rest ih =>
    have hbegins : ¬ ('\x7b' :: fileRest) <+: '\x7b' :: (configRest ++ rest) := by
      intro hbegins
      have hletter := (List.cons_prefix_cons.mp (List.cons_prefix_cons.mp hbegins).2).1
      exact absurd hletter (by decide)
    have hplain : '\x7b' ∉ configRest := by decide
    rw [slots, List.flatMap_cons, ← ih]
    calc fillFrom ('\x7b' :: fileRest) file 0 ('\x7b' :: (configRest ++ rest))
        = '\x7b' :: (configRest ++ fillFrom ('\x7b' :: fileRest) file 0 rest) := by
          rw [fillFrom_cons_of_no_mark hbegins, fillFrom_append_of_not_mem hplain]
      _ = Slot.filled file ('\x7b' :: configRest) .config
          ++ fillFrom ('\x7b' :: fileRest) file 0 rest := rfl
  | case4 c rest hfile hconfig ih =>
    have hbegins : ¬ ('\x7b' :: fileRest) <+: c :: rest := by
      rintro ⟨others, hothers⟩
      cases hothers
      exact hfile others rfl rfl
    rw [fillFrom_cons_of_no_mark hbegins, ih, slots]
    · rfl
    · exact hfile
    · exact hconfig

/-- The place of the configuration occurs in a template in its slots alone. -/
theorem occurrences_template (cs : List Char) :
    occurrences ('\x7b' :: configRest) cs = (slots cs).count .config := by
  have hplain : '\x7b' ∉ configRest := by decide
  induction cs using slots.induct with
  | case1 => rfl
  | case2 rest ih =>
    have hbegins : ¬ ('\x7b' :: configRest) <+: '\x7b' :: (fileRest ++ rest) := by
      intro hbegins
      have hletter := (List.cons_prefix_cons.mp (List.cons_prefix_cons.mp hbegins).2).1
      exact absurd hletter (by decide)
    have hnone : '\x7b' ∉ fileRest := by decide
    rw [slots, List.count_cons_of_ne (by decide), ← ih]
    calc occurrences ('\x7b' :: configRest) ('\x7b' :: (fileRest ++ rest))
        = occurrences ('\x7b' :: configRest) (fileRest ++ rest) :=
          occurrences_cons_of_no_mark hbegins
      _ = occurrences ('\x7b' :: configRest) rest := occurrences_append_of_not_mem hnone rest
  | case3 rest ih =>
    rw [slots, List.count_cons_self, ← ih, Nat.add_comm]
    exact occurrences_mark hplain rest
  | case4 c rest hfile hconfig ih =>
    have hbegins : ¬ ('\x7b' :: configRest) <+: c :: rest := by
      rintro ⟨others, hothers⟩
      cases hothers
      exact hconfig others rfl rfl
    rw [occurrences_cons_of_no_mark hbegins, ih, slots, List.count_cons_of_ne (by simp)]
    · exact hfile
    · exact hconfig

/-! ## Arguments -/

/-- Once the file is filled in, the text has a place of the configuration that the template has
    not. -/
def Strays (file arg : String) : Prop :=
  occurrences Engine.configPlace.toList arg.toList
    < occurrences Engine.configPlace.toList (fill Engine.filePlace file arg).toList

instance (file arg : String) : Decidable (Strays file arg) :=
  inferInstanceAs (Decidable (_ < _))

/-- An argument comes out with all its places filled at once exactly if no place strays into it, or
    the configuration is written like its place. -/
theorem fillArg_eq_filledAtOnce_iff (file config arg : String) :
    fillArg file config arg = filledAtOnce file config arg
      ↔ config = Engine.configPlace ∨ ¬ Strays file arg := by
  have hplain : '\x7b' ∉ configRest := by decide
  have hfile : (fill Engine.filePlace file arg).toList = spelled ('\x7b' :: configRest)
      ((slots arg.toList).flatMap (Slot.cells file.toList)) := by
    rw [fill, String.toList_ofList, toList_filePlace, fillFrom_file, spelled_cells]
  have hstrays : ¬ Strays file arg
      ↔ occurrences ('\x7b' :: configRest) (spelled ('\x7b' :: configRest)
          ((slots arg.toList).flatMap (Slot.cells file.toList)))
        = ((slots arg.toList).flatMap (Slot.cells file.toList)).count none := by
    have hleast := count_le_occurrences hplain
      ((slots arg.toList).flatMap (Slot.cells file.toList))
    rw [Strays, hfile, toList_configPlace, occurrences_template, ← count_cells file.toList]
    omega
  have hequal : fillArg file config arg = filledAtOnce file config arg
      ↔ fillFrom ('\x7b' :: configRest) config.toList 0 (spelled ('\x7b' :: configRest)
          ((slots arg.toList).flatMap (Slot.cells file.toList)))
        = spelled config.toList ((slots arg.toList).flatMap (Slot.cells file.toList)) := by
    rw [fillArg, filledAtOnce, fill, hfile, toList_configPlace, ← spelled_cells]
    exact String.ofList_inj
  rw [hequal, hstrays, ← String.toList_inj, toList_configPlace]
  constructor
  · intro hfill
    by_cases hsame : config.toList = '\x7b' :: configRest
    · exact Or.inl hsame
    · exact Or.inr (occurrences_of_fillFrom_spelled hplain hsame hfill)
  · rintro (hsame | hcount)
    · rw [hsame, fillFrom_self]
    · exact fillFrom_spelled hplain config.toList hcount

/-- The place of the file alone is filled with the file. -/
theorem filledAtOnce_filePlace (file config : String) :
    filledAtOnce file config Engine.filePlace = file := by
  have hslots : slots Engine.filePlace.toList = [.file] := by decide +kernel
  rw [filledAtOnce, hslots, List.flatMap_singleton, Slot.filled, String.ofList_toList]

theorem strays_filePlace_iff (file : String) :
    Strays file Engine.filePlace ↔ Engine.configPlace.toList <:+: file.toList := by
  have hfilled : fill Engine.filePlace file Engine.filePlace = file := by
    have hslots : slots Engine.filePlace.toList = [.file] := by decide +kernel
    rw [fill, toList_filePlace, fillFrom_file, ← toList_filePlace, hslots, List.flatMap_singleton,
      Slot.filled, String.ofList_toList]
  have hnone : occurrences Engine.configPlace.toList Engine.filePlace.toList = 0 := by
    decide +kernel
  rw [Strays, hfilled, hnone, toList_configPlace, Nat.pos_iff_ne_zero, Ne, occurrences_eq_zero_iff,
    not_not]

/-- The argument list of a command template that can be cut into words: its words, the extra
    arguments, and one argument for each template of the engine.  That argument has all its places
    filled at once exactly if no place of the configuration strays into it with the file, or the
    configuration is written like its place; and the place of the file alone becomes the file itself
    exactly if the file holds no such place. -/
theorem buildCommand_fills (request : EngineRequest) {base : List String}
    (hbase : words request.engine.command = .ok base) :
    ∃ filled, buildCommand request = .ok (base ++ request.extraArgs ++ filled)
      ∧ List.Forall₂ (fun arg out =>
          (out = filledAtOnce request.file request.configPath arg
            ↔ request.configPath = Engine.configPlace ∨ ¬ Strays request.file arg)
          ∧ (arg = Engine.filePlace → (out = request.file
            ↔ request.configPath = Engine.configPlace
              ∨ ¬ Engine.configPlace.toList <:+: request.file.toList)))
        request.engine.args filled := by
  refine ⟨request.engine.args.map (fillArg request.file request.configPath), ?_, ?_⟩
  · rw [buildCommand, hbase]
  · rw [List.forall₂_map_right_iff, List.forall₂_same]
    intro arg _
    refine ⟨fillArg_eq_filledAtOnce_iff .., ?_⟩
    rintro rfl
    have halone := fillArg_eq_filledAtOnce_iff request.file request.configPath Engine.filePlace
    rwa [filledAtOnce_filePlace, strays_filePlace_iff] at halone

/-- A file that is named like the place of the configuration is not the one that the engine is run
    on. -/
theorem buildCommand_bracedFile :
    (buildCommand { engine := Engine.pyright, file := "\x7bconfig\x7d.py" }).toOption
        = some ["pyright", ".py"]
      ∧ filledAtOnce "\x7bconfig\x7d.py" "" Engine.filePlace = "\x7bconfig\x7d.py" := by
  decide +kernel

/-- A request with a file whose name makes a place together with the braces around it. -/
def bracedRequest : EngineRequest where
  engine := { Engine.pyright with args := [Engine.filePlace, "--\x7b\x7bfile\x7d\x7d"] }
  file := "config"
  configPath := "rules.json"

/-- There the file alone is filled in as it is, and the file between the braces is not. -/
theorem buildCommand_fills_bracedRequest :
    words bracedRequest.engine.command = .ok ["pyright"]
      ∧ ∃ first second, buildCommand bracedRequest = .ok ["pyright", first, second]
        ∧ first = "config"
        ∧ second ≠ filledAtOnce "config" "rules.json" "--\x7b\x7bfile\x7d\x7d" := by
  have hbase : words bracedRequest.engine.command = .ok ["pyright"] := by decide +kernel
  obtain ⟨filled, hcommand, hfilled⟩ := buildCommand_fills bracedRequest hbase
  cases hfilled with
  | @cons _ first _ rest hfirst hrest =>
    cases hrest with
    | @cons _ second _ rest hsecond hrest =>
      cases hrest
      refine ⟨hbase, first, second, hcommand, ?_, fun heq => ?_⟩
      · exact (hfirst.2 rfl).mpr (Or.inr (by decide +kernel))
      · exact absurd (hsecond.1.mp heq) (by decide +kernel)

end LintBroker
