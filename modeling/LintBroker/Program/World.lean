/-
  LintBroker.Program.World

  What running programs share: the files, the streams that they read from and write
  to, and the time.  A program knows its streams by the numbers of its channels.
  Programs that run at the same time are run one after the other; what they write
  keeps the time at which it was written, and is put in order by it.
-/
import LintBroker.Files.Tree
import LintBroker.Program.Basic
import LintBroker.Text.Octets

namespace LintBroker.Program

open LintBroker.Files LintBroker.Text

/-! ## Streams -/

/-- A text that was written, with the time and the writer. -/
structure Writing where
  time : Nat
  writer : Nat
  text : Octets
  deriving DecidableEq

/-- A file that was opened: where it is, the octet at which it is read or written next, and what it
    was opened for. -/
structure OpenFile where
  place : Place
  position : Nat := 0
  reads : Bool := false
  writes : Bool := false
  /-- All is written at the end of the file. -/
  appends : Bool := false
  deriving DecidableEq

/-- A stream: text that is still to be read and the time at which it has been written, if it ever
    is; text that was written, the latest first; a file; a directory; or a device that is empty and
    takes all that is written to it or nothing. -/
inductive Stream where
  | source (rest : Octets) (ready : Option Nat)
  | sink (written : List Writing)
  | file (file : OpenFile)
  | directory
  | device (full : Bool)
  deriving DecidableEq

/-- The files with the times of their last changes, the streams by their numbers, and the
    microseconds that have passed.  Processes are numbered as they are started.  Those that run
    beside others have a time at which they end, or never do; some have let go of the streams of the
    others. -/
structure World where
  tree : Tree
  changes : List (Place × Nat) := []
  streams : List Stream := []
  clock : Nat := 0
  /-- The process that is known to be writing. -/
  writer : Nat := 1
  /-- The number of the next process. -/
  nextProcess : Nat := 2
  ends : List (Nat × Option Nat) := []
  /-- The processes that hold none of the streams of the others. -/
  detached : List Nat := []
  /-- The signals that processes were sent and have not taken note of yet. -/
  signals : List (Nat × Nat) := []
  /-- A process waits for the end of a text that is never ended. -/
  stuck : Bool := false

namespace World

/-- Adds a stream; it gets the next number. -/
def withStream (world : World) (stream : Stream) : Nat × World :=
  (world.streams.length, { world with streams := world.streams ++ [stream] })

/-- Puts another stream in the place of one. -/
def setStream (world : World) (n : Nat) (stream : Stream) : World :=
  { world with streams := world.streams.set n stream }

/-- Lets some microseconds pass. -/
def wait (world : World) (span : Nat) : World := { world with clock := world.clock + span }

/-- Lets time pass up to a point, unless it has passed already. -/
def waitUntil (world : World) (time : Nat) : World := { world with clock := max world.clock time }

/-! ## Files -/

/-- Puts an entry at a place, which changes it now. -/
def putEntry (world : World) (place : Place) (entry : Entry) : World :=
  { world with
    tree := world.tree.put place entry
    changes := (place, world.clock) :: world.changes.filter fun p => p.1 != place }

/-- Takes away the entry at a place. -/
def removeEntry (world : World) (place : Place) : World :=
  { world with tree := world.tree.erase place }

/-- When an entry was changed last; those that were there before have not been. -/
def changed (world : World) (place : Place) : Nat := (world.changes.lookup place).getD 0

/-- The bytes of the file at a place. -/
def fileBytes (world : World) (place : Place) : List UInt8 :=
  match world.tree.entry? place with
  | some (.file bytes _) => bytes
  | some (.program _) => programBytes
  | _ => []

/-- The world with a text in a file; a gap in front of it is filled with zeros. -/
def writeAt (world : World) (place : Place) (position : Nat) (cs : Octets) : World :=
  match world.tree.entry? place with
  | some (.file bytes executable) =>
    -- The gap is empty if the position is within the file.
    let gap := List.replicate (position - bytes.length) 0
    let changed := bytes.take position ++ gap ++ Octets.toBytes cs
    world.putEntry place (.file (changed ++ bytes.drop (position + cs.length)) executable)
  | _ => world

/-! ## Writing -/

/-- Writes to a stream. -/
def write (world : World) (n : Nat) (cs : Octets) : Except SystemError World :=
  match world.streams[n]? with
  | some (.sink written) =>
    .ok (world.setStream n (.sink (⟨world.clock, world.writer, cs⟩ :: written)))
  | some (.file file) =>
    if !file.writes then .error .badChannel
    else
      let position := if file.appends then (world.fileBytes file.place).length else file.position
      let moved : Stream := .file { file with position := position + cs.length }
      .ok ((world.writeAt file.place position cs).setStream n moved)
  | some (.device full) => if full ∧ cs ≠ [] then .error .noSpace else .ok world
  | _ => .error .badChannel

/-- All that was written to a stream, in the order of time; what was written at the same time stays
    in the order of writing. -/
def written (world : World) (n : Nat) : Octets :=
  match world.streams[n]? with
  | some (.sink written) =>
    -- The sort keeps the order of writing where the times are equal.
    let inOrder := written.reverse.mergeSort fun x y => x.time ≤ y.time
    inOrder.flatMap Writing.text
  | _ => []

/-- The world without what a writer wrote from some time on. -/
def silence (world : World) (writer time : Nat) : World :=
  { world with
    streams := world.streams.map fun
      | .sink written => .sink (written.filter fun w => w.writer != writer || w.time < time)
      | stream => stream }

/-! ## Processes -/

/-- Counts a process that is started while another one waits. -/
def withProcess (world : World) : World := { world with nextProcess := world.nextProcess + 1 }

/-- Begins a process that writes beside others. -/
def withWriter (world : World) : World := { world.withProcess with writer := world.nextProcess }

/-- When a process that runs beside others ends, if it does. -/
def endOf (world : World) (writer : Nat) : Option Nat := (world.ends.lookup writer).getD (some 0)

/-- A process has ended. -/
def hasEnded (world : World) (writer : Nat) : Bool :=
  (world.endOf writer).any fun time => time ≤ world.clock

/-- Notes when a process ends. -/
def withEnd (world : World) (writer : Nat) (time : Option Nat) : World :=
  { world with ends := (writer, time) :: world.ends.filter fun p => p.1 != writer }

/-- The microseconds that it takes a process to come to an end. -/
def stopTime : Nat := 50

/-- Ends a process now. -/
def stop (world : World) (writer : Nat) : World :=
  (world.silence writer world.clock).withEnd writer (some (world.clock + stopTime))

/-- The latest of a time and the ends of the processes with a number from some one on that hold the
    streams of the others; none if one of them does not end. -/
def lastEnd (world : World) (first : Nat) : Option Nat :=
  let holding := world.ends.filter fun p => first ≤ p.1 && !world.detached.contains p.1
  holding.foldl (fun latest p => latest.bind fun n => p.2.map (max n)) (some world.clock)

/-- The microseconds that it takes to make a copy of a program that is running. -/
def copyTime : Nat := 400

/-- The microseconds that it takes to start a program. -/
def startTime : Nat := 600

/-! ## Reading -/

/-- What is still to be read from a stream. -/
def unread (world : World) (n : Nat) : Except SystemError Octets :=
  match world.streams[n]? with
  | some (.source rest _) => .ok rest
  | some (.file file) =>
    if file.reads then .ok (Octets.ofBytes ((world.fileBytes file.place).drop file.position))
    else .error .badChannel
  | some .directory => .error .isDirectory
  | some (.device _) => .ok []
  | _ => .error .badChannel

/-- Leaves only the rest of a stream to be read, which takes until the text has been written. -/
def leave (world : World) (n : Nat) (rest : Octets) : World :=
  match world.streams[n]? with
  | some (.source _ (some time)) =>
    (world.setStream n (.source rest (some time))).waitUntil time
  | some (.source _ none) =>
    { world.setStream n (.source rest none) with stuck := world.stuck || rest.isEmpty }
  | some (.file file) =>
    let position := max file.position ((world.fileBytes file.place).length - rest.length)
    world.setStream n (.file { file with position })
  | _ => world

/-- A stream has a position that can be moved back. -/
def hasPosition (world : World) (n : Nat) : Bool :=
  match world.streams[n]? with
  | some (.file _) => true
  | _ => false

/-! ## Opening -/

/-- The stream of a device. -/
def deviceStream : Device → Except SystemError Stream
  | .empty => .ok (.device false)
  | .full => .ok (.device true)
  | .terminal => .error .noDevice

/-- The stream from the file at a path, as seen from a directory. -/
def reading (world : World) (directory : Place) (path : Octets) : Except SystemError Stream :=
  match world.tree.resolve directory (Octets.toText path) with
  | .error e => .error e
  | .ok place =>
    match world.tree.entry? place with
    | some (.device device) => deviceStream device
    | some .directory => .ok .directory
    | _ => .ok (.file { place, reads := true })

/-- What is done with a file that is opened for writing: it is emptied, it is emptied but must not
    have been there, it is written on, or it is read and written from its front. -/
inductive Opening where
  | emptying
  | creating
  | appending
  | updating
  deriving DecidableEq, Repr

/-- The stream to the file at a path, which is made if it is not there. -/
def writing (world : World) (directory : Place) (path : Octets) (opening : Opening) :
    Except SystemError (Stream × World) :=
  match world.tree.creationPlace directory (Octets.toText path) with
  | .error e => .error e
  | .ok place =>
    let stream : Stream :=
      .file { place, writes := true, reads := opening = .updating, appends := opening = .appending }
    match world.tree.entry? place with
    | some .directory => .error .isDirectory
    | some (.device device) => (deviceStream device).map fun stream => (stream, world)
    | some (.program _) => .error (if opening = .creating then .alreadyThere else .busy)
    | some (.file _ executable) =>
      match opening with
      | .emptying => .ok (stream, world.putEntry place (.file [] executable))
      | .creating => .error .alreadyThere
      | _ => .ok (stream, world)
    | none => .ok (stream, world.putEntry place (.file [] false))

end World

/-! ## Programs -/

/-- The permissions that new files do not get, unless a program asks for another mask. -/
def standardMask : Nat := 0o022

/-- What a program is given when it is started: its arguments, its own name first, the environment,
    the directory it is in, the streams of its channels, the mask for permissions, its number as a
    process, and that of the process that started it. -/
structure Call where
  args : List Octets
  environment : List (Octets × Octets) := []
  directory : Place := []
  channels : List (Nat × Nat) := []
  mask : Nat := standardMask
  process : Nat := 1
  parent : Nat := 0

/-- How a program came to an end, if it did. -/
inductive Outcome where
  | ended (ending : Ending)
  | endless
  deriving DecidableEq, Repr

/-- A program that ends with a status. -/
def Outcome.exited (status : Nat) : Outcome := .ended (.exited (status % 256))

/-- Starts the program at a path, or refuses to. -/
abbrev Start := Octets → Call → World → Except SystemError (Outcome × World)

namespace Call

/-- Writes to a channel if that can be written to. -/
def write? (call : Call) (channel : Nat) (cs : Octets) (world : World) :
    Except SystemError World :=
  match call.channels.lookup channel with
  | some n => world.write n cs
  | none => .error .badChannel

/-- Writes to a channel; one that cannot be written to takes nothing. -/
def write (call : Call) (channel : Nat) (cs : Octets) (world : World) : World :=
  (call.write? channel cs world).toOption.getD world

/-- What is still to be read from a channel. -/
def unread (call : Call) (channel : Nat) (world : World) : Except SystemError Octets :=
  match call.channels.lookup channel with
  | some n => world.unread n
  | none => .error .badChannel

/-- Leaves only the rest of a channel to be read. -/
def leave (call : Call) (channel : Nat) (rest : Octets) (world : World) : World :=
  ((call.channels.lookup channel).map fun n => world.leave n rest).getD world

/-- Reads all that is left of a channel; nothing from one that cannot be read. -/
def readAll (call : Call) (channel : Nat) (world : World) : Octets × World :=
  ((call.unread channel world).toOption.getD [], call.leave channel [] world)

end Call

end LintBroker.Program
