/-
  LintBroker.Proofs.ReadingConfig

  How the reading of a configuration ends, for everything that can be at its path.  Only
  one kind of document makes it fail: one that the reader gives up because a number in it
  has too many digits.  Every other one that cannot be read is reported and counts as
  empty.
-/
import LintBroker.Project
import LintBroker.Proofs.TomlDigits
import LintBroker.Proofs.Utf8

namespace LintBroker.Project

open LintBroker.Files LintBroker.Journal LintBroker.Number LintBroker.Text

/-! ## What can be there -/

/-- What can be at the path of a configuration. -/
inductive Contents where
  | nothing
  | directory
  | file (bytes : List UInt8)

/-- This is at the path: the system finds nothing there, or refuses to read a directory, or reads
    the bytes of a file. -/
inductive Found (disk : Disk) (path : String) : Contents → Prop where
  | nothing {e : SystemError} (hkind : disk.kind path = .error e) (habsent : e.meansAbsent = true) :
    Found disk path .nothing
  | directory (hpath : Disk.hasNul path = false) (hkind : disk.kind path = .ok .directory)
    (hbytes : disk.bytes path = .error .isDirectory) : Found disk path .directory
  | file {bytes : List UInt8} (hpath : Disk.hasNul path = false)
    (hkind : disk.kind path = .ok .regular) (hbytes : disk.bytes path = .ok bytes) :
    Found disk path (.file bytes)

namespace Contents

/-- A file with the bytes of a text, of which the reader of documents makes this. -/
def Reads (contents : Contents) (document : Except Toml.Fault Members) : Prop :=
  ∃ text : String, contents = .file (Utf8.encode text)
    ∧ Toml.read (newlinesOnly text.toList) = document

/-- No table is read from it, and it is not given up for a number either: nothing, a directory,
    bytes that are no text, or a text that is no document. -/
structure Unreadable (contents : Contents) : Prop where
  no_table : ∀ members, ¬ contents.Reads (.ok members)
  no_number : ∀ count, ¬ contents.Reads (.error (.tooManyDigits count))

/-- A file with the bytes of a text in which so many digits, more than the limit, stand in a
    row. -/
def HasLongRow (contents : Contents) (count : Nat) : Prop :=
  ∃ text : String, contents = .file (Utf8.encode text)
    ∧ Toml.LongRow count (newlinesOnly text.toList)

theorem hasLongRow_of_reads {contents : Contents} {count : Nat}
    (h : contents.Reads (.error (.tooManyDigits count))) : contents.HasLongRow count := by
  obtain ⟨text, hbytes, hread⟩ := h
  exact ⟨text, hbytes, Toml.longRow_of_read hread⟩

theorem reads_file_iff {bytes : List UInt8} {document : Except Toml.Fault Members} :
    (Contents.file bytes).Reads document
      ↔ ∃ text, Utf8.decode bytes = .ok text ∧ Toml.read (newlinesOnly text.toList) = document := by
  constructor
  · rintro ⟨text, hbytes, hread⟩
    injection hbytes with hbytes
    exact ⟨text, Utf8.decode_eq_ok_iff.mpr hbytes, hread⟩
  · rintro ⟨text, hdecode, hread⟩
    exact ⟨text, congrArg Contents.file (Utf8.decode_eq_ok_iff.mp hdecode), hread⟩

/-- A file has one document at most. -/
theorem Reads.unique {contents : Contents} {document other : Except Toml.Fault Members}
    (h : contents.Reads document) (hother : contents.Reads other) : document = other := by
  obtain ⟨text, hbytes, rfl⟩ := h
  obtain ⟨text', hbytes', rfl⟩ := hother
  rw [hbytes] at hbytes'
  injection hbytes' with hencode
  have hdecode := Utf8.decode_eq_ok_iff.mpr hencode
  rw [Utf8.decode_eq_ok_iff.mpr rfl] at hdecode
  cases hdecode
  rfl

theorem not_reads_nothing {document : Except Toml.Fault Members} :
    ¬ Contents.nothing.Reads document := by
  rintro ⟨text, hbytes, -⟩
  cases hbytes

theorem not_reads_directory {document : Except Toml.Fault Members} :
    ¬ Contents.directory.Reads document := by
  rintro ⟨text, hbytes, -⟩
  cases hbytes

theorem unreadable_of_malformed {contents : Contents}
    (h : ∀ document, contents.Reads document → document = .error .malformed) :
    contents.Unreadable := by
  constructor
  · intro members hreads
    cases h _ hreads
  · intro count hreads
    cases h _ hreads

end Contents

/-! ## Each way to the end -/

theorem newlinesOnly_eq_self {cs : List Char} (h : '\r' ∉ cs) : newlinesOnly cs = cs := by
  induction cs using newlinesOnly.induct with
  | case1 => rfl
  | case2 rest ih => exact absurd (List.mem_cons_self ..) h
  | case3 c rest hnot ih =>
    have hc : c ≠ '\r' := fun heq => h (heq ▸ List.mem_cons_self ..)
    rw [newlinesOnly, ih fun hin => h (List.mem_cons_of_mem _ hin), if_neg hc]
    exact hnot

/-- The reading ended with the empty table after a warning, which is all that was logged. -/
def Warned (run : Traced Members) : Prop :=
  ∃ record : Record, record.level = .warning ∧ run = ⟨.ok [], [record], []⟩

section Ends

variable {disk : Disk} {directory : String}

theorem readConfig_of_absent (h : disk.isPresent (below directory configName) = .ok false) :
    readConfig disk directory = pure [] := by
  simp only [readConfig, h]
  rfl

theorem readConfig_of_unreadable {failure : Failure}
    (hpresent : disk.isPresent (below directory configName) = .ok true)
    (hread : disk.readText (below directory configName) = .error failure) :
    readConfig disk directory
      = ⟨.ok [], [unreadable (below directory configName) failure.message], []⟩ := by
  simp only [readConfig, hpresent, hread]
  rfl

/-- The document of a file that can be read decides. -/
theorem readConfig_of_text {text : String}
    (hpresent : disk.isPresent (below directory configName) = .ok true)
    (hread : disk.readText (below directory configName) = .ok text) :
    readConfig disk directory =
      match Toml.read (newlinesOnly text.toList) with
      | .ok members => pure members
      | .error .malformed =>
        ⟨.ok [], [unreadable (below directory configName) "<toml error>"], []⟩
      | .error (.tooManyDigits count) => .fail (.invalidValue (digitLimitMessage count)) := by
  simp only [readConfig, hpresent, hread]
  cases Toml.read (newlinesOnly text.toList) with
  | ok members => rfl
  | error fault =>
    cases fault with
    | malformed => rfl
    | tooManyDigits count => rfl

theorem readConfig_of_directory (h : Found disk (below directory configName) .directory) :
    Warned (readConfig disk directory) := by
  cases h with
  | directory hpath hkind hbytes =>
    have hpresent : disk.isPresent (below directory configName) = .ok true := by
      simp [Disk.isPresent, Disk.probe, hpath, hkind]
    have hread : disk.readText (below directory configName)
        = .error (.system .isDirectory (some (below directory configName))) := by
      simp [Disk.readText, hpath, hbytes]
    exact ⟨_, rfl, readConfig_of_unreadable hpresent hread⟩

/-- Of a file, what its bytes say as a text decides; bytes that are none are reported. -/
theorem readConfig_of_file {bytes : List UInt8}
    (h : Found disk (below directory configName) (.file bytes)) :
    (∃ members, (Contents.file bytes).Reads (.ok members)
        ∧ readConfig disk directory = pure members)
      ∨ (∃ count, (Contents.file bytes).Reads (.error (.tooManyDigits count))
        ∧ readConfig disk directory = .fail (.invalidValue (digitLimitMessage count)))
      ∨ (Contents.file bytes).Unreadable ∧ Warned (readConfig disk directory) := by
  cases h with
  | file hpath hkind hbytes =>
    have hpresent : disk.isPresent (below directory configName) = .ok true := by
      simp [Disk.isPresent, Disk.probe, hpath, hkind]
    have hread : disk.readText (below directory configName)
        = (Utf8.decode bytes).mapError .undecodable := by
      simp [Disk.readText, hpath, hbytes]
    cases hdecode : Utf8.decode bytes with
    | error fault =>
      rw [hdecode] at hread
      -- Bytes that are no text have no document of any kind.
      refine Or.inr (Or.inr ⟨?_, _, rfl, readConfig_of_unreadable hpresent hread⟩)
      refine Contents.unreadable_of_malformed fun document hdocument => ?_
      obtain ⟨text, htext, -⟩ := Contents.reads_file_iff.mp hdocument
      rw [hdecode] at htext
      cases htext
    | ok text =>
      rw [hdecode] at hread
      have hrun := readConfig_of_text hpresent hread
      have hreads := Contents.reads_file_iff.mpr ⟨text, hdecode, rfl⟩
      cases hdocument : Toml.read (newlinesOnly text.toList) with
      | ok members =>
        rw [hdocument] at hrun hreads
        exact Or.inl ⟨members, hreads, hrun⟩
      | error fault =>
        rw [hdocument] at hrun hreads
        cases fault with
        | tooManyDigits count => exact Or.inr (Or.inl ⟨count, hreads, hrun⟩)
        | malformed =>
          refine Or.inr (Or.inr ⟨?_, _, rfl, hrun⟩)
          exact Contents.unreadable_of_malformed fun document hdocument =>
            hdocument.unique hreads

/-- The four ways in which the reading can end. -/
theorem readConfig_cases {contents : Contents}
    (h : Found disk (below directory configName) contents) :
    (contents = .nothing ∧ readConfig disk directory = pure [])
      ∨ (∃ members, contents.Reads (.ok members) ∧ readConfig disk directory = pure members)
      ∨ (∃ count, contents.Reads (.error (.tooManyDigits count))
        ∧ readConfig disk directory = .fail (.invalidValue (digitLimitMessage count)))
      ∨ (contents ≠ .nothing ∧ contents.Unreadable ∧ Warned (readConfig disk directory)) := by
  cases contents with
  | nothing =>
    cases h with
    | nothing hkind habsent =>
      have hpresent : disk.isPresent (below directory configName) = .ok false := by
        simp [Disk.isPresent, Disk.probe, hkind, habsent]
      exact Or.inl ⟨rfl, readConfig_of_absent hpresent⟩
  | directory =>
    refine Or.inr (Or.inr (Or.inr ⟨?_, ?_, readConfig_of_directory h⟩))
    · intro heq
      cases heq
    · exact Contents.unreadable_of_malformed fun document hdocument =>
        absurd hdocument Contents.not_reads_directory
  | file bytes =>
    rcases readConfig_of_file h with hread | hfailed | ⟨hunreadable, hwarned⟩
    · exact Or.inr (Or.inl hread)
    · exact Or.inr (Or.inr (Or.inl hfailed))
    · refine Or.inr (Or.inr (Or.inr ⟨?_, hunreadable, hwarned⟩))
      intro heq
      cases heq

/-- A document that can be read is what the reading returns. -/
theorem readConfig_of_reads {contents : Contents} {members : Members}
    (h : Found disk (below directory configName) contents)
    (hdocument : contents.Reads (.ok members)) : readConfig disk directory = pure members := by
  rcases readConfig_cases h with ⟨rfl, -⟩ | ⟨others, hreads, hrun⟩ | ⟨count, hreads, -⟩
    | ⟨-, hunreadable, -⟩
  · exact absurd hdocument Contents.not_reads_nothing
  · cases hdocument.unique hreads
    exact hrun
  · cases hdocument.unique hreads
  · exact absurd hdocument (hunreadable.no_table members)

/-- What is there and has no document is reported. -/
theorem warned_of_unreadable {contents : Contents}
    (h : Found disk (below directory configName) contents) (hthere : contents ≠ .nothing)
    (hunreadable : contents.Unreadable) : Warned (readConfig disk directory) := by
  rcases readConfig_cases h with ⟨rfl, -⟩ | ⟨members, hreads, -⟩ | ⟨count, hreads, -⟩
    | ⟨-, -, hwarned⟩
  · exact absurd rfl hthere
  · exact absurd hreads (hunreadable.no_table members)
  · exact absurd hreads (hunreadable.no_number count)
  · exact hwarned

/-- The only failure is that of a document which is given up for a number. -/
theorem readConfig_eq_error_iff {contents : Contents}
    (h : Found disk (below directory configName) contents) {failure : Failure} :
    (readConfig disk directory).result = .error failure ↔
      ∃ count, contents.Reads (.error (.tooManyDigits count))
        ∧ failure = .invalidValue (digitLimitMessage count) := by
  rcases readConfig_cases h with ⟨rfl, hrun⟩ | ⟨members, hreads, hrun⟩ | ⟨count, hreads, hrun⟩
    | ⟨-, hunreadable, record, -, hrun⟩ <;> rw [hrun]
  · refine iff_of_false (fun heq => nomatch heq) ?_
    rintro ⟨count, hdocument, -⟩
    exact Contents.not_reads_nothing hdocument
  · refine iff_of_false (fun heq => nomatch heq) ?_
    rintro ⟨count, hdocument, -⟩
    cases hdocument.unique hreads
  · constructor
    · intro heq
      cases heq
      exact ⟨count, hreads, rfl⟩
    · rintro ⟨other, hdocument, rfl⟩
      cases hdocument.unique hreads
      rfl
  · refine iff_of_false (fun heq => nomatch heq) ?_
    rintro ⟨count, hdocument, -⟩
    exact hunreadable.no_number count hdocument

end Ends

/-! ## The reading as a whole -/

/-- What is at the path settles how the reading of a configuration ends.  Where nothing is, the
    table is empty and nothing is logged; the table of a document is returned and nothing is
    logged; and everything else is reported once and counts as empty, but for a document that
    is given up for a number with too many digits.  That one is the only one that fails, and so
    many digits stand in it in a row. -/
theorem readConfig_settles {disk : Disk} {directory : String} {contents : Contents}
    (h : Found disk (below directory configName) contents) :
    (contents = .nothing → readConfig disk directory = pure [])
      ∧ (∀ members, contents.Reads (.ok members) → readConfig disk directory = pure members)
      ∧ (contents ≠ .nothing → contents.Unreadable → Warned (readConfig disk directory))
      ∧ (∀ failure, (readConfig disk directory).result = .error failure ↔
          ∃ count, contents.Reads (.error (.tooManyDigits count))
            ∧ failure = .invalidValue (digitLimitMessage count))
      ∧ ((∀ count, ¬ contents.HasLongRow count) →
          ∃ members, (readConfig disk directory).result = .ok members) := by
  refine ⟨?_, fun members => readConfig_of_reads h, warned_of_unreadable h,
    fun failure => readConfig_eq_error_iff h, fun hrows => ?_⟩
  · rintro rfl
    rcases readConfig_cases h with ⟨-, hrun⟩ | ⟨members, hreads, -⟩ | ⟨count, hreads, -⟩
      | ⟨hthere, -, -⟩
    · exact hrun
    · exact absurd hreads Contents.not_reads_nothing
    · exact absurd hreads Contents.not_reads_nothing
    · exact absurd rfl hthere
  · cases hresult : (readConfig disk directory).result with
    | ok members => exact ⟨members, rfl⟩
    | error failure =>
      obtain ⟨count, hreads, -⟩ := (readConfig_eq_error_iff h).mp hresult
      exact absurd (Contents.hasLongRow_of_reads hreads) (hrows count)

/-- A disk with nothing on it but a configuration in a settings directory. -/
def configDisk (directory text : String) : Disk where
  kind path := if path = below directory configName then .ok .regular else .error .noEntry
  bytes path :=
    if path = below directory configName then .ok (Utf8.encode text) else .error .noEntry
  executable _ := false
  workingDirectory := "/"

theorem found_configDisk {directory text : String}
    (h : Disk.hasNul (below directory configName) = false) :
    Found (configDisk directory text) (below directory configName) (.file (Utf8.encode text)) :=
  .file h (if_pos rfl) (if_pos rfl)

/-- A document with one member. -/
def plainDocument : String := String.ofList ['a', ' ', '=', ' ', '3', '\n']

theorem readConfig_settles_plainDocument :
    Found (configDisk directoryName plainDocument) (below directoryName configName)
        (.file (Utf8.encode plainDocument))
      ∧ readConfig (configDisk directoryName plainDocument) directoryName
        = pure [("a", .int 3)] := by
  have hfound := @found_configDisk directoryName plainDocument (by decide)
  have hread : Toml.read (newlinesOnly plainDocument.toList) = .ok [("a", .int 3)] := by
    rw [plainDocument, String.toList_ofList]
    rfl
  exact ⟨hfound, (readConfig_settles hfound).2.1 _ ⟨_, rfl, hread⟩⟩

/-- A document whose only value has so many digits. -/
def longDocument (count : Nat) : String := String.ofList ('a' :: '=' :: List.replicate count '1')

theorem read_longDocument {count : Nat} (h : digitLimit < count) :
    Toml.read (newlinesOnly (longDocument count).toList) = .error (.tooManyDigits count) := by
  have hreturns : '\r' ∉ (longDocument count).toList := by
    rw [longDocument, String.toList_ofList]
    simp [List.mem_replicate]
  rw [newlinesOnly_eq_self hreturns, longDocument, String.toList_ofList]
  exact Toml.read_replicate h

/-- The reading of every such document beyond the limit fails, and nothing is reported. -/
theorem readConfig_longDocument {directory : String} {count : Nat}
    (hpath : Disk.hasNul (below directory configName) = false) (h : digitLimit < count) :
    readConfig (configDisk directory (longDocument count)) directory
      = .fail (.invalidValue (digitLimitMessage count)) := by
  have hfound := @found_configDisk directory (longDocument count) hpath
  have hreads : (Contents.file (Utf8.encode (longDocument count))).Reads
      (.error (.tooManyDigits count)) := ⟨_, rfl, read_longDocument h⟩
  rcases readConfig_of_file hfound with ⟨_, hother, -⟩ | ⟨_, hother, hrun⟩ | ⟨hunreadable, -⟩
  · cases hreads.unique hother
  · cases hreads.unique hother
    exact hrun
  · exact absurd hreads (hunreadable.no_number count)

/-- One digit more than the limit is enough. -/
theorem readConfig_oneDigitMore :
    (readConfig (configDisk directoryName (longDocument 4301)) directoryName).result
      = .error (.invalidValue (digitLimitMessage 4301)) := by
  rw [readConfig_longDocument (by decide) (by decide)]
  rfl

end LintBroker.Project
