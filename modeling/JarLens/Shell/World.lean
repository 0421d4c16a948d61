import JarLens.Files.Edit
import JarLens.Shell.Command

/-!
# What processes share

The files, the pipes, what descriptors lead to, and how processes ended that nobody asked about yet.
Only one process runs at a time: it holds the `World` while it does, together with what it has to
know of the others.
-/

namespace JarLens.Shell

/-- What a descriptor leads to. -/
inductive Channel where
  /-- Nothing comes from there, and what is written there is gone, or cannot be written where it is
  full. -/
  | device (isFull : Bool) (mode : OpenMode)
  /-- A file by its number, and the position in it that is read or written next. -/
  | file (number : Nat) (mode : OpenMode) (position : Nat)
  /-- A text to be read, from a position on. -/
  | text (content : ByteArray) (position : Nat)
  /-- The end of a pipe that is read from. -/
  | source (pipe : Nat)
  /-- The end of a pipe that is written to. -/
  | sink (pipe : Nat)

/-- The channel from which nothing comes, and where what is written is gone. -/
def Channel.null : Channel :=
  .device false .readWrite

/-- Bytes on their way from those who write them to those who read them. -/
structure Pipe where
  content : ByteArray := .empty
  /-- How many of the bytes were read. -/
  position : Nat := 0
  /-- Whether there is a limit to what is on its way. What has none is always read from. -/
  isBounded : Bool := true

/-- How many bytes can be in a pipe. -/
def pipeLimit : Nat := 65536

/-- How many bytes are written to a pipe in one piece. -/
def pieceLimit : Nat := 4096

namespace Pipe

/-- The number of bytes that can be read. -/
def count (pipe : Pipe) : Nat :=
  pipe.content.size - pipe.position

/-- The number of bytes that can be written. None if there is no limit. -/
def room? (pipe : Pipe) : Option Nat :=
  if pipe.isBounded then some (pipeLimit - pipe.count) else none

/-- The pipe with more bytes in it. -/
def add (pipe : Pipe) (bytes : ByteArray) : Pipe :=
  { pipe with content := pipe.content ++ bytes }

/-- The bytes that can be read, at most `most` of them. -/
def front (pipe : Pipe) (most : Nat) : ByteArray :=
  pipe.content.extract pipe.position (pipe.position + min most pipe.count)

/-- The pipe after bytes were read. -/
def drop (pipe : Pipe) (count : Nat) : Pipe :=
  if pipe.content.size ≤ pipe.position + count then { pipe with content := .empty, position := 0 }
  else { pipe with position := pipe.position + count }

end Pipe

/-- How a process ended: with a status, or by a signal. -/
inductive Exit where
  | status (n : Nat)
  | signal (n : Nat)

/-- The status that stands for it. -/
def Exit.toStatus : Exit → Nat
  | .status n => n % 256
  | .signal n => 128 + n

/-- A process that has ended. -/
structure Ended where
  number : Nat
  /-- The process that may ask about it. -/
  parent : Nat
  exit : Exit
  /-- The moment from which that shows. -/
  moment : Nat

/-- For how long a process that has ended can be sent signals if its parent does not live. -/
def reapTime : Nat := 200

/-- Whether a process that has ended can be sent signals at a moment. -/
def Ended.isReachable (e : Ended) (isAlive : Nat → Bool) (moment : Nat) : Bool :=
  isAlive e.parent || moment ≤ e.moment + reapTime

/-- The number of the first process. -/
def firstNumber : Nat := 4242

/-- What processes share. -/
structure World where
  /-- The files, and the present moment. -/
  files : Files := {}
  channels : Array Channel := #[]
  pipes : Array Pipe := #[]
  /-- The texts in scripts that redirections take. -/
  documents : Array Word := #[]
  /-- The number of the next process. -/
  nextNumber : Nat := firstNumber
  /-- The processes that have ended, until their parents ask about them or nobody can. -/
  ended : List Ended := []
  /-- The other processes that live. -/
  living : List Nat := []
  /-- The channels that they have. -/
  held : List Nat := []
  /-- The signals that were sent to them, with their numbers. -/
  sent : List (Nat × Nat) := []
  /-- The moment at which another process may have something to do. -/
  horizon : Nat := 0

/-- The present moment, in microseconds. -/
def World.now (w : World) : Nat :=
  w.files.clock

/-- Whether others have a channel of some kind. -/
def World.isHeld (w : World) (isOf : Channel → Bool) : Bool :=
  w.held.any fun k => w.channels[k]?.any isOf

end JarLens.Shell
