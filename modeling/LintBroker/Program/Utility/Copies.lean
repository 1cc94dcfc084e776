/-
  LintBroker.Program.Utility.Copies

  The utilities that copy and move files, with whole directories if that is asked for, and
  the one that changes who may do what with them.
-/
import LintBroker.Program.Utility.Entries

namespace LintBroker.Program.Utility

open LintBroker.Files LintBroker.Text

/-! ## Targets -/

/-- How files are copied or moved. -/
structure Transfer where
  recursive : Bool := false
  told : Bool := false
  /-- What is there already stays. -/
  sparing : Bool := false
  target : Option Octets := none
  /-- The last operand is not a directory to put things in. -/
  direct : Bool := false

/-- The path leads to a directory. -/
def isDirectoryAt (path : Octets) : Task Bool := do
  match ← placeOf path with
  | .ok place => return (← entryAt place) = some .directory
  | .error _ => return false

/-- A path in a directory. -/
def pathIn (directory name : Octets) : Octets :=
  if directory.getLast? = some '/' then directory ++ name else directory ++ '/' :: name

/-- Tells what goes where. -/
def tellTransfer (front : String) (source target : Octets) : Task Unit :=
  putLine (front.toList ++ inQuotes source ++ " -> ".toList ++ inQuotes target)

/-- Complains about the directory that several files should go to. -/
def noTarget {α : Type} (path : Octets) : Task α := do
  let e := match ← placeOf path with
    | .ok _ => SystemError.notDirectory
    | .error e => e
  fail (aboutPath "target" path e)

/-- Each of the sources with the path that it goes to. -/
def transfersOf (transfer : Transfer) (paths : List Octets) : Task (List (Octets × Octets)) := do
  let into (directory : Octets) (sources : List Octets) : List (Octets × Octets) :=
    sources.map fun source => (source, pathIn directory (lastPart source))
  match transfer.target, paths with
  | _, [] => misuse "missing file operand".toList
  | some directory, sources => do
    if !(← isDirectoryAt directory) then noTarget directory
    return into directory sources
  | none, [path] =>
    misuse ("missing destination file operand after ".toList ++ inQuotes path)
  | none, paths => do
    let target := paths.getLast?.getD []
    let sources := paths.dropLast
    if transfer.direct then
      match sources with
      | [source] => return [(source, target)]
      | _ => extraOperandQuoted (paths.getD 2 [])
    else if ← isDirectoryAt target then return into target sources
    else
      match sources with
      | [source] => return [(source, target)]
      | _ => noTarget target
where
  /-- Complains about an operand too many. -/
  extraOperandQuoted {α : Type} (operand : Octets) : Task α :=
    misuse ("extra operand ".toList ++ inQuotes operand)

/-! ## Copying -/

/-- Copies an entry that is no directory to a path. -/
def copyEntry (transfer : Transfer) (source target : Octets) (entry : Entry) (place : Place) :
    Task Unit := do
  match ← newPlaceOf target with
  | .error e =>
    let e := if target.getLast? = some '/' then SystemError.notDirectory else e
    report (aboutPath "cannot create regular file" target e)
  | .ok targetPlace =>
    let there ← entryAt targetPlace
    if targetPlace = place then
      report (inQuotes source ++ " and ".toList ++ inQuotes target
        ++ " are the same file".toList)
    else if there = some .directory then
      report ("cannot overwrite directory ".toList ++ inQuotes target
        ++ " with non-directory".toList)
    else if there.isSome ∧ transfer.sparing then return
    else
      -- A file that is there keeps its mode; a device takes what is copied to it.
      let copied : Option Entry := match entry, there with
        | .file bytes _, some (.file _ executable) => some (.file bytes executable)
        | _, some (.device _) => none
        | .device _, _ => some (.file [] false)
        | entry, _ => some entry
      if let some copied := copied then
        modifyWorld fun world => world.putEntry targetPlace copied
      if transfer.told then tellTransfer "" source target

/-- Copies a directory and what it holds to a path. -/
def copyTree (transfer : Transfer) (source target : Octets) (place : Place) : Task Unit := do
  let below := (← get).world.tree.within place
  match ← newPlaceOf (withoutEndSlashes target) with
  | .error e => report (aboutPath "cannot create directory" target e)
  | .ok targetPlace =>
    if place.isPrefixOf targetPlace then
      report ("cannot copy a directory, ".toList ++ inQuotes source ++ ", into itself, ".toList
        ++ inQuotes target)
    else
      match ← entryAt targetPlace with
      | some .directory | none =>
        -- The root has no entry of its own.
        let entries := if below.isEmpty then [(place, Entry.directory)] else below
        entries.forM fun (inner, entry) => do
          let innerSource := pathBelow source place inner
          let innerTarget := pathBelow target place inner
          match entry with
          | .directory =>
            let innerPlace := targetPlace ++ inner.drop place.length
            if (← entryAt innerPlace).isNone then
              modifyWorld fun world => world.putEntry innerPlace .directory
              if transfer.told then tellTransfer "" innerSource innerTarget
          | entry => copyEntry transfer innerSource innerTarget entry inner
      | some _ =>
        report ("cannot overwrite non-directory ".toList ++ inQuotes target
          ++ " with directory ".toList ++ inQuotes source)

/-- Copies what is at a path to another one. -/
def copyPath (transfer : Transfer) (source target : Octets) : Task Unit := do
  match ← placeOf source with
  | .error e => report (aboutPath "cannot stat" source e)
  | .ok place =>
    match ← entryAt place with
    | some .directory =>
      if transfer.recursive then copyTree transfer source target place
      else report ("-r not specified; omitting directory ".toList ++ inQuotes source)
    | some entry => copyEntry transfer source target entry place
    | none => report (aboutPath "cannot stat" source .noEntry)

/-- The options that copying and moving have in common. -/
def transferChoices : List Choice :=
  [.flag 'v' "verbose", .flag 'n' "no-clobber", .valued 't' "target-directory",
    .flag 'T' "no-target-directory", .flag 'f' "force", .flag 'i' "interactive",
    .flag 'u' "update", .letterOnly 'b', .valued 'S' "suffix"]

/-- What an option changes. -/
def Transfer.with (transfer : Transfer) (key : String) (value : Octets) : Transfer :=
  match key with
  | "verbose" => { transfer with told := true }
  | "no-clobber" => { transfer with sparing := true }
  | "force" => { transfer with sparing := false }
  | "target-directory" => { transfer with target := some value }
  | "no-target-directory" => { transfer with direct := true }
  | "recursive" => { transfer with recursive := true }
  | "archive" => { transfer with recursive := true }
  | _ => transfer

/-- Copies files. -/
def copy : Utility := run 1 fun _ => do
  let (transfer, paths) ← takeOptions
    (transferChoices ++ [.flag 'r' "recursive",
      { Choice.letterOnly 'R' with key := "recursive" }, .flag 'a' "archive", .letterOnly 'p',
      .letterOnly 'd', .flag 'L' "dereference", .flag 'P' "no-dereference", .letterOnly 'H',
      .flag 'l' "link", .flag 's' "symbolic-link", .flag 'x' "one-file-system",
      { Choice.nameOnly "preserve" with taking := .possible }, .nameOnly "parents"])
    ({} : Transfer) fun transfer key value => return transfer.with key value
  (← transfersOf transfer paths).forM fun (source, target) => copyPath transfer source target

/-! ## Moving -/

/-- Moves what is at a path to another one. -/
def movePath (transfer : Transfer) (source target : Octets) : Task Unit := do
  match ← placeOf source with
  | .error e => report (aboutPath "cannot stat" source e)
  | .ok place =>
    let directory := (← entryAt place) = some .directory
    -- A directory may be given a name with a slash at its end.
    let plain := if directory then withoutEndSlashes target else target
    match ← newPlaceOf plain with
    | .error e =>
      let front := "cannot move ".toList ++ inQuotes source ++ " to ".toList
      report (withReason (front ++ inQuotes target) e)
    | .ok targetPlace =>
      let there ← entryAt targetPlace
      if directory ∧ place.isPrefixOf targetPlace then
        report ("cannot move ".toList ++ inQuotes source ++ " to a subdirectory of itself, ".toList
          ++ inQuotes target)
      else if place = targetPlace then
        report (inQuotes source ++ " and ".toList ++ inQuotes target
          ++ " are the same file".toList)
      else if there.isSome ∧ transfer.sparing then return
      else if directory ∧ there.isSome ∧ there ≠ some .directory then
        report ("cannot overwrite non-directory ".toList ++ inQuotes target
          ++ " with directory ".toList ++ inQuotes source)
      else if !directory ∧ there = some .directory then
        report ("cannot overwrite directory ".toList ++ inQuotes target
          ++ " with non-directory".toList)
      else if directory ∧ !((← get).world.tree.namesIn targetPlace).isEmpty then
        report (aboutPath "cannot overwrite" target .notEmpty)
      else
        let below := (← get).world.tree.within place
        below.forM fun (inner, entry) =>
          modifyWorld fun world =>
            (world.removeEntry inner).putEntry (targetPlace ++ inner.drop place.length) entry
        if transfer.told then tellTransfer "renamed " source target

/-- Moves files and directories. -/
def move : Utility := run 1 fun _ => do
  let (transfer, paths) ← takeOptions transferChoices ({} : Transfer)
    fun transfer key value => return transfer.with key value
  (← transfersOf transfer paths).forM fun (source, target) => movePath transfer source target

/-! ## Permissions -/

/-- The mode of an entry, as far as it is known: whether a file may be executed. -/
def modeOf : Entry → Nat
  | .file _ false => 0o644
  | _ => 0o755

/-- Changes the mode of what is at a place. -/
def changeModeAt (change : Bool → Nat → Nat) (place : Place) : Task Unit := do
  if let some (.file bytes executable) ← entryAt place then
    let mode := change false (modeOf (.file bytes executable))
    modifyWorld fun world =>
      { world with tree := world.tree.put place (.file bytes (mode &&& 0o111 != 0)) }

/-- The word takes away permissions, though it looks like options. -/
def isModeWord (word : Octets) : Bool :=
  match word with
  | '-' :: c :: rest => (c :: rest).all fun c => "rwxXstugoa,+-=01234567".toList.contains c
  | _ => false

/-- Changes who may do what with files. -/
def changeMode : Utility := run 1 fun _ => do
  let words ← operands
  -- A mode that takes permissions away begins with a dash as options do.
  let modeWord := words.find? isModeWord
  let (recursive, words) ← takeOptionsBare (words.filter fun word => !isModeWord word)
  let words := modeWord.toList ++ words
  match words with
  | [] => missingOperand
  | [mode] => misuse ("missing operand after ".toList ++ quoted mode)
  | mode :: paths =>
    match modeChange? (← get).call.mask mode with
    | none => misuse ("invalid mode: ".toList ++ quoted mode)
    | some change =>
      paths.forM fun path => do
        match ← placeOf path with
        | .error e => report (aboutPath "cannot access" path e)
        | .ok place =>
          let below := ((← get).world.tree.within place).map (·.1)
          let places := if recursive then below else [place]
          places.forM (changeModeAt change)
where
  /-- The options; gives whether all that a directory holds is changed, too. -/
  takeOptionsBare (words : List Octets) : Task (Bool × List Octets) := do
    let choices : List Choice :=
      [.flag 'R' "recursive", .flag 'c' "changes", .flag 'f' "silent",
        { Choice.nameOnly "quiet" with key := "silent" }, .flag 'v' "verbose"]
    let (chosen, words) := readChosen (choices ++ standardChoices) true "" none words
    return (← takeChosen (fun s key _ => return s || key == "recursive") false chosen, words)

end LintBroker.Program.Utility
