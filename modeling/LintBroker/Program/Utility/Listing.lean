/-
  LintBroker.Program.Utility.Listing

  The utility that lists what directories hold.
-/
import LintBroker.Program.Utility.Entries

namespace LintBroker.Program.Utility

open LintBroker.Files LintBroker.Text

/-! ## Listings -/

/-- What is listed and how. -/
structure Listing where
  hidden : Bool := false
  /-- The directory itself and the one above it are listed, too. -/
  everything : Bool := false
  /-- Directories are listed themselves, not what they hold. -/
  shallow : Bool := false
  recursive : Bool := false
  reversed : Bool := false
  /-- A sign behind names tells what they are. -/
  classified : Bool := false
  /-- A slash stands behind the names of directories. -/
  slashed : Bool := false
  byTime : Bool := false
  bySize : Bool := false
  joined : Bool := false

/-- A name with what is there. -/
structure Listed where
  name : Octets
  place : Place
  entry : Option Entry

namespace Listing

/-- The sign behind a name. -/
def sign (listing : Listing) (listed : Listed) : Octets :=
  match listed.entry with
  | some .directory => if listing.classified || listing.slashed then ['/'] else []
  | some (.file _ true) => if listing.classified then ['*'] else []
  | some (.program _) => if listing.classified then ['*'] else []
  | _ => []

/-- The length of what is listed. -/
def sizeOf (listed : Listed) : Nat :=
  match listed.entry with
  | some (.file bytes _) => bytes.length
  | some .directory => 4096
  | _ => 0

/-- The order of a listing. -/
def sort (listing : Listing) (world : World) (all : List Listed) : List Listed :=
  let byName := all.mergeSort fun x y => Octets.atMost x.name y.name
  let sorted :=
    if listing.byTime then
      byName.mergeSort fun x y => world.changed y.place ≤ world.changed x.place
    else if listing.bySize then byName.mergeSort fun x y => sizeOf y ≤ sizeOf x
    else byName
  if listing.reversed then sorted.reverse else sorted

/-- The lines of a listing. -/
def text (listing : Listing) (all : List Listed) : Octets :=
  let names := all.map fun listed => listed.name ++ listing.sign listed
  if listing.joined then
    if names.isEmpty then [] else List.intercalate ", ".toList names ++ ['\n']
  else names.flatMap fun name => name ++ ['\n']

/-- What a directory holds, as far as it is listed. -/
def inside (listing : Listing) (world : World) (place : Place) : List Listed :=
  let names := (world.tree.namesIn place).map fun name =>
    (⟨Octets.ofText name, place ++ [name], world.tree.entry? (place ++ [name])⟩ : Listed)
  let shown := if listing.hidden then names else names.filter fun l => l.name.head? != some '.'
  let steps : List Listed :=
    if listing.everything then
      [⟨['.'], place, some .directory⟩, ⟨['.', '.'], place.dropLast, some .directory⟩]
    else []
  listing.sort world (steps ++ shown)

end Listing

/-! ## The utility -/

/-- Writes what directories hold, each under its path if that is asked for.  Those in them follow if
    all are to be listed. -/
def putDirectories (listing : Listing) (named : Bool) : Nat → Bool → List (Octets × Place) →
    Task Unit
  | 0, _, _ => return
  | _, _, [] => return
  | fuel + 1, first, (path, place) :: rest => do
    let world := (← get).world
    let all := listing.inside world place
    if named then put ((if first then [] else ['\n']) ++ path ++ ":\n".toList)
    put (listing.text all)
    let below :=
      if listing.recursive then
        all.filterMap fun listed =>
          let isStep := listed.name = ['.'] ∨ listed.name = ['.', '.']
          if listed.entry = some .directory ∧ !isStep then
            some (if path.getLast? = some '/' then path ++ listed.name
              else path ++ '/' :: listed.name, listed.place)
          else none
      else []
    putDirectories listing named fuel false (below ++ rest)

/-- The options. -/
def listingChoices : List Choice :=
  [.flag 'a' "all", .flag 'A' "almost-all", .flag 'd' "directory", .flag 'r' "reverse",
    .flag 'R' "recursive", { Choice.flag 'F' "classify" with taking := .nothing },
    .letterOnly 'p', .letterOnly '1', .letterOnly 't', .letterOnly 'S', .letterOnly 'U',
    .letterOnly 'C', .letterOnly 'x', .letterOnly 'm', .letterOnly 'q', .letterOnly 'N',
    .letterOnly 'b', .letterOnly 'Q', .letterOnly 'k', .letterOnly 'h', .letterOnly 'L',
    { Choice.nameOnly "color" with taking := .possible }]

/-- What an option changes. -/
def Listing.with (listing : Listing) (key : String) : Listing :=
  match key with
  | "all" => { listing with hidden := true, everything := true }
  | "almost-all" => { listing with hidden := true, everything := false }
  | "directory" => { listing with shallow := true }
  | "reverse" => { listing with reversed := true }
  | "recursive" => { listing with recursive := true }
  | "classify" => { listing with classified := true }
  | "p" => { listing with slashed := true }
  | "t" => { listing with byTime := true, bySize := false }
  | "S" => { listing with bySize := true, byTime := false }
  | "m" => { listing with joined := true }
  | "1" => { listing with joined := false }
  | _ => listing

/-- Lists files, and what directories hold. -/
def list : Utility := run 2 fun _ => do
  let (listing, paths) ← takeOptions listingChoices ({} : Listing)
    fun listing key _ => return listing.with key
  let given := if paths.isEmpty then [['.']] else paths
  let found ← given.mapM fun path => do
    match ← placeOf path with
    | .ok place => return some (⟨path, place, ← entryAt place⟩ : Listed)
    | .error e => do
      report (aboutPath "cannot access" path e)
      return none
  let world := (← get).world
  let found := listing.sort world (found.filterMap id)
  let (directories, files) := found.partition fun listed =>
    !listing.shallow && listed.entry == some .directory
  put (listing.text files)
  let named := listing.recursive || 1 < given.length
  putDirectories listing named (world.tree.length + directories.length + 1) files.isEmpty
    (directories.map fun listed => (listed.name, listed.place))

end LintBroker.Program.Utility
