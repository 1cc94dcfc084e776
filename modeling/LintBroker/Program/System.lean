/-
  LintBroker.Program.System

  The system that starts programs: a path has to lead to a program of the system, or to
  a file that may be executed and names the interpreter that runs it.
-/
import LintBroker.Program.Utility
import LintBroker.Shell.Interpreter

namespace LintBroker.Program

open LintBroker.Files LintBroker.Shell LintBroker.Text

/-! ## Interpreters -/

/-- The octets at the front of a file that tell how it is run. -/
def frontLength : Nat := 256

/-- A blank between the words of the first line. -/
def isLineBlank (c : Char) : Bool := c == ' ' || c == '\t'

/-- A character that ends the name of an interpreter. -/
def endsInterpreter (c : Char) : Bool := isLineBlank c || c == '\x00'

/-- The first octets of a file, with zeros behind a shorter one. -/
def frontOf (text : Octets) : Octets :=
  text.take frontLength ++ List.replicate (frontLength - text.length) '\x00'

/-- The text of a first line behind its mark, up to the end of the line without the blanks in front
    of that, or else as far as it is looked at.  A name that may go on beyond that does not
    count. -/
def interpreterLine? (front : Octets) : Option Octets :=
  let line := front.takeWhile fun c => c != '\n' && c != '\x00'
  if front[line.length]? = some '\n' then
    some (((line.drop 2).reverse.dropWhile isLineBlank).reverse)
  else
    let named := (front.drop 2).dropWhile isLineBlank
    if named.any endsInterpreter then some (front.dropLast.drop 2) else none

/-- The interpreter that the first line of a file names, with the text behind it as one more
    argument if there is any. -/
def interpreter? (text : Octets) : Option (Octets × Option Octets) :=
  match frontOf text with
  | '#' :: '!' :: rest => do
    let line ← interpreterLine? ('#' :: '!' :: rest)
    let line := line.dropWhile isLineBlank
    if line = [] then none
    else
      let name := line.takeWhile fun c => !endsInterpreter c
      let behind := line.drop name.length
      let option := behind.dropWhile isLineBlank
      let given := behind.head?.any isLineBlank ∧ option ≠ []
      some (name, if given then some (option.takeWhile (· != '\x00')) else none)
  | _ => none

/-! ## Starting -/

/-- The programs of the system that can be started, by name. -/
def programs : List (String × Utility) :=
  ("sh", interpret) :: ("dash", interpret) :: Utility.table

/-- The names of other programs of the system; what they do is not known. -/
def otherPrograms : List String :=
  "addpart apt apt-cache apt-config apt-get apt-key apt-mark arch awk b2sum base32 base64 basenc
    bash bashbug captoinfo chage chattr chcon chfn chgrp chown chrt chsh cksum clear cmp comm
    csplit date deb-systemd-helper debconf dd df diff diff3 dir dircolors dmesg dnsdomainname
    domainname dpkg dpkg-deb dpkg-query du egrep expand expiry expr factor faillog fallocate fgrep
    find findmnt flock fmt fold getconf getent getopt gpasswd grep groups gunzip gzexe gzip hostid
    hostname iconv infocmp install ionice ipcmk ipcrm ipcs join kill last ldd link ln locale
    localedef logger login logname lsattr lsblk lscpu lsipc lslocks lslogins lsmem lsns mawk mcookie
    md5sum mesg mkfifo mknod mktemp more mount mountpoint namei nawk newgrp nice nisdomainname nl
    nohup nproc nsenter numfmt od passwd paste pathchk perl pinky pr prlimit ps ptx rbash readlink
    realpath rename.ul renice reset rev rgrep run-parts runcon savelog script scriptlive
    scriptreplay sdiff sed setarch setpriv setsid setterm sg sha1sum sha224sum sha256sum sha384sum
    sha512sum shred shuf split stat stdbuf stty su sum sync tabs tar taskset tempfile tic
    toe tput truncate tset tsort tty tzselect umount uncompress unexpand unlink unshare
    update-alternatives users utmpdump vdir wall wdctl whereis who xargs yes ypdomainname
    zcat zcmp zdiff zdump zegrep zfgrep zforce zgrep zless zmore znew".splitOn " "
    |>.map (fun name => name.trimAscii.toString) |>.filter (· != "")

/-- The directories of the system. -/
def systemDirectories : List Place := [
    ["bin"], ["boot"], ["dev"], ["etc"], ["home"], ["lib"], ["media"], ["mnt"], ["opt"], ["proc"],
    ["root"], ["run"], ["sbin"], ["srv"], ["sys"], ["tmp"], ["usr"], ["usr", "bin"], ["usr", "lib"],
    ["usr", "local"], ["usr", "local", "bin"], ["usr", "sbin"], ["usr", "share"], ["var"] ]

/-- A tree with the directories and devices of the system and with its programs, which are in both
    places where programs are usually looked for. -/
def systemTree : Tree :=
  let directories : Tree := systemDirectories.map fun place => (place, .directory)
  let devices : Tree :=
    [(["dev", "null"], .device .empty), (["dev", "full"], .device .full),
      (["dev", "tty"], .device .terminal)]
  let names := programs.map Prod.fst ++ otherPrograms
  let programsIn (directory : Place) : Tree :=
    names.map fun name => (directory ++ [name], .program name)
  directories ++ devices ++ programsIn ["bin"] ++ programsIn ["usr", "bin"]

/-- The status of a program that the library does not know by its name. -/
def unknownStatus : Nat := 127

/-- How many scripts can be the interpreters of one another. -/
def interpreterLimit : Nat := 5

/-- A file that can be executed: a program of the system with its name, or a text. -/
inductive Executable where
  | program (name : String)
  | text (text : Octets)

/-- What is executed at a path. -/
def executableAt (tree : Tree) (directory : Place) (path : Octets) :
    Except SystemError Executable := do
  match ← if path = [] then .error .denied else tree.find directory (Octets.toText path) with
  | .program name => .ok (.program name)
  | .file bytes true => .ok (.text (Octets.ofBytes bytes))
  | _ => .error .denied

/-- What a path comes to: a program of the system with its name, and the arguments it is given.  A
    script comes to what its interpreter comes to. -/
def programAt (tree : Tree) (directory : Place) : Nat → Octets → List Octets →
    Except SystemError (String × List Octets)
  | fuel, path, args => do
    match ← executableAt tree directory path with
    | .program name => .ok (name, args)
    | .text text =>
      match interpreter? text with
      | none => .error .badFormat
      | some (name, option) =>
        match fuel with
        | 0 => do
          let _ ← executableAt tree directory name
          .error .circular
        | fuel + 1 =>
          programAt tree directory fuel name (name :: option.toList ++ path :: args.drop 1)

/-- How many programs can be started by one another. -/
def startLimit : Nat := 40

/-- Starts the program at a path.  Programs can start others up to a bound; one that goes beyond it
    counts as one that never ends. -/
def start : Nat → Start
  | 0, _, _, world => .ok (.endless, world)
  | depth + 1, path, call, world =>
    if path = [] then .error .noEntry
    else do
      let (name, args) ← programAt world.tree call.directory interpreterLimit path call.args
      match programs.lookup name with
      | some program => .ok (program (start depth) { call with args } world)
      | none => .ok (.exited unknownStatus, world)

/-! ## The launcher -/

/-- The units of the clock of a world in those of a result. -/
def microsecondsPerMillisecond : Nat := 1000

/-- The streams that a program is started with: no input, and two sinks. -/
def freshStreams : List Stream := [.device false, .sink [], .sink []]

/-- Starts a program on a tree, and tells what came of it. -/
def execute (tree : Tree) (directory : Place) (path : String) (args : List String)
    (environment : Environment) : Except SystemError Result :=
  let call : Call :=
    { args := args.map Octets.ofText
      environment := environment.map fun entry => (Octets.ofText entry.1, Octets.ofText entry.2)
      directory, channels := [(0, 0), (1, 1), (2, 2)] }
  match start startLimit (Octets.ofText path) call { tree, streams := freshStreams } with
  | .error e => .error e
  | .ok (outcome, world) =>
    let result (ending : Ending) (duration : Option Nat) : Result :=
      { ending, duration, stdout := Octets.toBytes (world.written 1)
        stderr := Octets.toBytes (world.written 2) }
    match outcome with
    | .ended ending =>
      .ok (result ending ((world.lastEnd 0).map fun time => time / microsecondsPerMillisecond))
    | .endless => .ok (result (.killed 9) none)

/-- The launcher of programs on a tree. -/
def launcher (tree : Tree) (directory : Place) (environment : Environment) : Launcher where
  environment
  execute := execute tree directory

end LintBroker.Program
