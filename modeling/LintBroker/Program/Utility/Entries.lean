/-
  LintBroker.Program.Utility.Entries

  The utilities that make and remove directories and files, and the one that writes its input
  into files.
-/
import LintBroker.Program.Utility.Concatenation
import LintBroker.Program.Utility.Names

namespace LintBroker.Program.Utility

open LintBroker.Files LintBroker.Text

/-! ## Places -/

/-- The place of what is at a path. -/
def placeOf (path : Octets) : Task (Except SystemError Place) := do
  let state ← get
  return state.world.tree.resolve state.call.directory (Octets.toText path)

/-- The place at which a path would make an entry. -/
def newPlaceOf (path : Octets) : Task (Except SystemError Place) := do
  let state ← get
  return state.world.tree.creationPlace state.call.directory (Octets.toText path)

/-- The entry at a place. -/
def entryAt (place : Place) : Task (Option Entry) := return (← get).world.tree.entry? place

/-- Changes the world. -/
def modifyWorld (f : World → World) : Task Unit :=
  modify fun state => { state with world := f state.world }

/-- A complaint about a path that quotes it as a shell would read it. -/
def aboutPath (front : String) (path : Octets) (e : SystemError) : Octets :=
  withReason (front.toList ++ ' ' :: inQuotes path) e

/-! ## Making directories -/

/-- Makes a directory at a path. -/
def makeDirectory (told : Bool) (path : Octets) : Task (Except SystemError Unit) := do
  match ← newPlaceOf (if path = ['/'] then path else withoutEndSlashes path) with
  | .error e => return .error e
  | .ok place =>
    if (← entryAt place).isSome then return .error .alreadyThere
    else
      modifyWorld fun world => world.putEntry place .directory
      if told then putLine ((← self) ++ ": created directory ".toList ++ inQuotes path)
      return .ok ()

/-- The complaint about a directory that cannot be made. -/
def unmade (path : Octets) (e : SystemError) : Octets :=
  withReason ("cannot create directory ".toList ++ quoted path) e

/-- The paths of the directories on the way to a path, and the path itself. -/
def pathsTo (path : Octets) : List Octets :=
  let parts := splitAt '/' path
  let fronts := (List.range parts.length).map fun n =>
    (['/'] : Octets).intercalate (parts.take (n + 1))
  fronts.filter fun front => front ≠ [] ∧ front.getLast? ≠ some '/'

/-- Makes a directory and those on the way to it that are not there. -/
def makeWithParents (told : Bool) : List Octets → Task Unit
  | [] => return
  | path :: rest => do
    let there := (← placeOf path).toOption
    match there with
    | some place =>
      if (← entryAt place) = some .directory then makeWithParents told rest
      else report (unmade path (if rest.isEmpty then .alreadyThere else .notDirectory))
    | none =>
      match ← makeDirectory told path with
      | .ok () => makeWithParents told rest
      | .error e => report (unmade path e)

/-- The bits of a mode that digits of base eight write. -/
def octalMode? (cs : Octets) : Option Nat :=
  let n := cs.foldl (fun n c => 8 * n + (c.toNat - '0'.toNat)) 0
  if cs ≠ [] ∧ (cs.all fun c => '0' ≤ c ∧ c ≤ '7') ∧ n < 0o10000 then some n else none

/-- A clause that changes a mode: whom it concerns, the sign, and the permissions. -/
structure ModeClause where
  who : Octets
  sign : Char
  what : Octets

/-- The clauses behind the letters that tell whom they concern. -/
def modeClauses? (who : Octets) : Nat → Octets → Option (List ModeClause)
  | 0, _ => none
  | fuel + 1, cs =>
    match cs with
    | sign :: rest =>
      if "+-=".toList.contains sign then
        let what := rest.takeWhile fun c => "rwxXstugo".toList.contains c
        match rest.drop what.length with
        | [] => some [⟨who, sign, what⟩]
        | after => (modeClauses? who fuel after).map (⟨who, sign, what⟩ :: ·)
      else none
    | [] => none

/-- The bits of a permission for those that a letter stands for. -/
def shareOf (who : Char) : Nat :=
  if who = 'u' then 0o700 else if who = 'g' then 0o070 else 0o007

/-- The bits that a letter stands for, in all shares, given the mode so far. -/
def permissionBits (directory : Bool) (mode : Nat) (c : Char) : Nat :=
  if c = 'r' then 0o444
  else if c = 'w' then 0o222
  else if c = 'x' then 0o111
  else if c = 'X' then (if directory ∨ mode &&& 0o111 ≠ 0 then 0o111 else 0)
  else if c = 'u' then (mode / 64 % 8) * 0o111
  else if c = 'g' then (mode / 8 % 8) * 0o111
  else if c = 'o' then (mode % 8) * 0o111
  else 0

/-- A mode changed by a clause. -/
def ModeClause.apply (clause : ModeClause) (mask : Nat) (directory : Bool) (mode : Nat) : Nat :=
  let all := clause.who.isEmpty || clause.who.contains 'a'
  let share := if all then 0o777 else clause.who.foldl (fun n c => n ||| shareOf c) 0
  let allowed := if clause.who.isEmpty then 0o777 - (mask &&& 0o777) else 0o777
  let bits := clause.what.foldl (fun n c => n ||| permissionBits directory mode c) 0
  let bits := bits &&& share &&& allowed
  if clause.sign = '+' then mode ||| bits
  else if clause.sign = '-' then mode - (mode &&& bits)
  else (mode - (mode &&& share)) ||| bits

/-- What a text makes of a mode, for a directory or not. -/
def modeChange? (mask : Nat) (cs : Octets) : Option (Bool → Nat → Nat) :=
  match octalMode? cs with
  | some n => some fun _ _ => n
  | none => do
    let clauses ← (splitAt ',' cs).mapM fun part =>
      let who := part.takeWhile fun c => "ugoa".toList.contains c
      modeClauses? who (part.length + 1) (part.drop who.length)
    some fun directory mode =>
      clauses.flatten.foldl (fun mode clause => clause.apply mask directory mode) mode

/-- Makes directories. -/
def makeDirectories : Utility := run 1 fun _ => do
  let ((parents, told), paths) ← takeOptions
    [.flag 'p' "parents", .flag 'v' "verbose", .valued 'm' "mode", .letterOnly 'Z']
    (false, false) fun (parents, told) key value => do
      if key = "mode" ∧ (modeChange? standardMask value).isNone then
        fail ("invalid mode ".toList ++ quoted value)
      else return (parents || key == "parents", told || key == "verbose")
  if paths = [] then missingOperand
  paths.forM fun path => do
    if parents ∧ path ≠ [] then makeWithParents told (pathsTo path)
    else
      match ← makeDirectory told path with
      | .ok () => return
      | .error e => report (unmade path e)

/-! ## Removing -/

/-- Removes the empty directory at a path. -/
def removeDirectory (path : Octets) : Task (Except SystemError Unit) := do
  if lastPart path = ['.'] then return .error .invalid
  match ← placeOf path with
  | .error e => return .error e
  | .ok place =>
    if (← entryAt place) ≠ some .directory then return .error .notDirectory
    else if place = [] then return .error .inUse
    else if !((← get).world.tree.namesIn place).isEmpty then return .error .notEmpty
    else
      modifyWorld fun world => world.removeEntry place
      return .ok ()

/-- Removes a directory, and then those on the way to it. -/
def removeUpwards (tolerant told : Bool) : List Octets → Task Unit
  | [] => return
  | path :: rest => do
    if told then putLine ((← self) ++ ": removing directory, ".toList ++ inQuotes path)
    match ← removeDirectory path with
    | .ok () => removeUpwards tolerant told rest
    | .error e =>
      if !(tolerant && e == .notEmpty) then
        report (aboutPath "failed to remove" path e)

/-- Removes empty directories. -/
def removeDirectories : Utility := run 1 fun _ => do
  let (keys, paths) ← takeOptions
    [.flag 'p' "parents", .flag 'v' "verbose", .nameOnly "ignore-fail-on-non-empty"]
    ([] : List String) fun keys key _ => return key :: keys
  if paths = [] then missingOperand
  let tolerant := keys.contains "ignore-fail-on-non-empty"
  paths.forM fun path =>
    let all := if keys.contains "parents" then (pathsTo path).reverse else [path]
    removeUpwards tolerant (keys.contains "verbose") all

/-- How entries are removed. -/
structure Removal where
  force : Bool := false
  recursive : Bool := false
  directories : Bool := false
  told : Bool := false
  asking : Bool := false
  everything : Bool := false

/-- The path of an entry below the place of a path. -/
def pathBelow (path : Octets) (place below : Place) : Octets :=
  let names := (below.drop place.length).map Octets.ofText
  names.foldl (fun path name =>
    if path.getLast? = some '/' then path ++ name else path ++ '/' :: name) path

/-- The answer to a question is a yes. -/
def confirmed (question : Octets) : Task Bool := do
  modify fun state =>
    let text := (state.call.args.head?.getD []) ++ ": ".toList ++ question ++ "? ".toList
    { state with world := state.call.write 2 text state.world }
  let state ← get
  let text := (state.call.unread 0 state.world).toOption.getD []
  let line := text.takeWhile (· != '\n')
  modifyWorld fun world => state.call.leave 0 (text.drop (line.length + 1)) world
  return line.head?.any fun c => c == 'y' || c == 'Y'

/-- Removes what is at a place, after a question if that is asked for. -/
def removeAt (removal : Removal) (path : Octets) (place : Place) : Task Unit := do
  let entry ← entryAt place
  let directory := entry = some .directory
  let kind := match entry with
    | some .directory => "directory"
    | some (.file [] _) => "regular empty file"
    | _ => "regular file"
  let agreed ←
    if removal.asking then confirmed ("remove ".toList ++ kind.toList ++ ' ' :: inQuotes path)
    else pure true
  if agreed then
    if directory ∧ !((← get).world.tree.namesIn place).isEmpty then
      report (aboutPath "cannot remove" path .notEmpty)
    else
      modifyWorld fun world => world.removeEntry place
      if removal.told then
        putLine ((if directory then "removed directory " else "removed ").toList ++ inQuotes path)

/-- Removes what is at a path. -/
def removePath (removal : Removal) (path : Octets) : Task Unit := do
  let name := lastPart path
  if removal.recursive ∧ (name = ['.'] ∨ name = ['.', '.']) then
    report ("refusing to remove '.' or '..' directory: skipping ".toList ++ inQuotes path)
  else if removal.recursive ∧ name = ['/'] ∧ !removal.everything then
    report ("it is dangerous to operate recursively on ".toList ++ inQuotes path)
    complain "use --no-preserve-root to override this failsafe".toList
  else
    match ← placeOf path with
    | .error e =>
      if !(removal.force ∧ (e = .noEntry ∨ e = .notDirectory)) then
        report (aboutPath "cannot remove" path e)
    | .ok place =>
      if (← entryAt place) ≠ some .directory then removeAt removal path place
      else if removal.recursive then
        let below := ((← get).world.tree.within place).map (·.1)
        -- What a directory holds goes before the directory itself.
        below.reverse.forM fun inner => removeAt removal (pathBelow path place inner) inner
      else if removal.directories then removeAt removal path place
      else report (aboutPath "cannot remove" path .isDirectory)

/-- Removes files, and directories with all that they hold if that is asked for. -/
def remove : Utility := run 1 fun _ => do
  let (removal, paths) ← takeOptions
    [.flag 'f' "force", .letterOnly 'i', .letterOnly 'I', .flag 'r' "recursive",
      { Choice.letterOnly 'R' with key := "recursive" }, .flag 'd' "dir", .flag 'v' "verbose",
      .nameOnly "one-file-system", .nameOnly "no-preserve-root",
      { Choice.nameOnly "preserve-root" with taking := .possible },
      { Choice.nameOnly "interactive" with taking := .possible }]
    ({} : Removal) fun removal key _ => return match key with
      | "force" => { removal with force := true, asking := false }
      | "i" => { removal with force := false, asking := true }
      | "recursive" => { removal with recursive := true }
      | "dir" => { removal with directories := true }
      | "verbose" => { removal with told := true }
      | "no-preserve-root" => { removal with everything := true }
      | _ => removal
  if paths = [] then
    if removal.force then return
    else missingOperand
  paths.forM (removePath removal)

/-! ## Writing files -/

/-- Makes files that are not there, and counts those that are as changed. -/
def touchPath (creating : Bool) (path : Octets) : Task Unit := do
  match ← placeOf path with
  | .ok place =>
    if let some entry ← entryAt place then
      modifyWorld fun world => world.putEntry place entry
  | .error e =>
    if path.getLast? = some '/' then report (aboutPath "setting times of" path e)
    else
      match ← newPlaceOf path with
      | .error e => report (aboutPath "cannot touch" path e)
      | .ok place =>
        if creating then modifyWorld fun world => world.putEntry place (.file [] false)

/-- Makes files, or counts them as changed. -/
def touch : Utility := run 1 fun _ => do
  let (creating, paths) ← takeOptions
    [.letterOnly 'a', .flag 'c' "no-create", .valued 'd' "date", .letterOnly 'f',
      .flag 'h' "no-dereference", .letterOnly 'm', .valued 'r' "reference",
      { Choice.letterOnly 't' with taking := .needed },
      { Choice.nameOnly "time" with taking := .needed }]
    true fun creating key _ => return creating && key != "no-create"
  if paths = [] then misuse "missing file operand".toList
  paths.forM fun path => if path = ['-'] then return else touchPath creating path

/-- Opens a file for writing; gives the number of its stream. -/
def openForWriting (opening : World.Opening) (path : Octets) :
    Task (Except SystemError Nat) := do
  let state ← get
  match state.world.writing state.call.directory path opening with
  | .error e => return .error e
  | .ok (stream, world) =>
    let (n, world) := world.withStream stream
    set { state with world }
    return .ok n

/-- Writes the input to the output and into files. -/
def splitOutput : Utility := run 1 fun _ => do
  let (opening, paths) ← takeOptions
    [.flag 'a' "append", .flag 'i' "ignore-interrupts", .letterOnly 'p',
      { Choice.nameOnly "output-error" with taking := .possible }]
    World.Opening.emptying fun opening key _ =>
      return if key = "append" then .appending else opening
  let streams ← paths.mapM fun path => do
    match ← openForWriting opening path with
    | .ok n => return some (path, n)
    | .error e => do
      report (withReason (asWord path) e)
      return none
  match ← readInput with
  | .error e => report (withReason "read error".toList e)
  | .ok text => do
    let state ← get
    match state.call.write? 1 text state.world with
    | .ok world => modifyWorld fun _ => world
    | .error e => report (withReason (inQuotes "standard output".toList) e)
    (streams.filterMap id).forM fun (path, n) => do
      match (← get).world.write n text with
      | .ok world => modifyWorld fun _ => world
      | .error e => report (withReason (asWord path) e)

end LintBroker.Program.Utility
