import JarLens.Shell.Number
import JarLens.Shell.World

/-!
# Processes

A process has a state of its own beside the `World` that it shares with others. One that it starts
has a copy of that state. The state is that of the shell, of which a program that is no script uses
only a part.
-/

namespace JarLens.Shell

/-- A variable. It can be marked before it has a value. -/
structure Variable where
  value : Option Text := none
  isExported : Bool := false
  isReadOnly : Bool := false

/-- What was before a function changed it for itself. -/
inductive Kept where
  | variable (name : Text) (before : Option Variable)
  | options (before : List Char)

/-- A function, and the line that its body starts on. -/
structure Function where
  line : Nat
  body : Command

/-- What runs on to the end of a loop or function without doing anything more. -/
inductive Skip where
  /-- To the end of loops, as many as there are. -/
  | loops (count : Nat)
  /-- To the end of loops, the last of which goes on with its next round. -/
  | rounds (count : Nat)
  /-- To the end of a function. With `isPlain` the status of the last command stays. -/
  | function (isPlain : Bool)
  deriving DecidableEq

/-- Processes that were started without waiting for them, as one command. -/
structure Job where
  /-- The place of the job among all, from 0. -/
  slot : Nat
  /-- Its processes, with how they ended as far as that is known. -/
  members : List (Nat × Option Exit)
  /-- Whether it was waited for. -/
  isWaited : Bool := false

/-- Whether all processes of a job have ended, as far as is known. -/
def Job.isDone (job : Job) : Bool :=
  job.members.all (·.2.isSome)

/-- A process. -/
structure Process extends World where
  /-- Its number, that of the process that started it, and the one by which its script knows
  itself. -/
  number : Nat := firstNumber
  parent : Nat := firstNumber - 1
  scriptNumber : Nat := firstNumber
  /-- The folder it is in, none if that was removed before it started. Nothing lies at the place
  of one that was removed since. -/
  folder : Option Place
  /-- The number by which the folder is known. -/
  folderNumber : Option Nat := none
  /-- The path by which it came to its folder. -/
  folderPath : Text
  /-- The path that the files told for its folder when they were asked last. -/
  truePath : Option Text := none
  /-- What the descriptors lead to, by the position among the channels. -/
  descriptors : List (Nat × Nat)
  /-- The channels that it has besides, to come back to. -/
  spare : List Nat := []
  bindings : List (Text × Variable)
  functions : List (Text × Function) := []
  aliases : List (Text × Text) := []
  /-- What was before it was made local, for each function that runs. -/
  locals : List (List Kept) := []
  /-- The name that the script was started by. -/
  zero : Text
  parameters : List Text
  /-- The status of the last command. -/
  status : Nat := 0
  /-- The status that the process ends with, where that is settled. -/
  settled : Option Nat := none
  /-- The status of the last command inside of a word. -/
  innerStatus : Nat := 0
  /-- The line that messages tell. -/
  line : Nat := 0
  /-- The line that reading the script has come to. -/
  readLine : Nat := 1
  /-- The command in whose name messages are told. -/
  speaker : Option Text := none
  /-- The options that are set, by their letters. -/
  options : List Char := []
  /-- The signals that do nothing, whatever is said about them. -/
  ignored : List Nat := []
  /-- What is done at signals by number, and at the end for 0. -/
  traps : List (Nat × Text) := []
  /-- The signals that reached it and are still to be dealt with. -/
  arrived : List Nat := []
  skip : Option Skip := none
  /-- How many loops are running in the function that runs. -/
  loops : Nat := 0
  /-- How many functions are running. -/
  depth : Nat := 0
  /-- The parameter that options are read from next, and how much of it was read. -/
  optionAt : Nat := 1
  optionOffset : Option Nat := none
  /-- The programs found on the search path so far, with their paths. -/
  found : List (Text × Text) := []
  mask : Nat := 0o022
  /-- Whether it is not the first process of its script. -/
  isChild : Bool := false
  /-- The jobs, the one started last first. -/
  jobs : List Job := []
  /-- The number of the process started last without waiting for it. -/
  lastJob : Option Nat := none
  homes : List (Text × Text) := []

namespace Process

/-- The process with a descriptor that leads to a channel, or nowhere. -/
def redirect (p : Process) (descriptor : Nat) (channel : Option Nat) : Process :=
  { p with
    descriptors :=
      (channel.toList.map fun k => (descriptor, k)) ++ p.descriptors.filter (·.1 != descriptor) }

/-- The process with its folder where that is now. The place of one that was removed is in the
folder above. -/
def refresh (p : Process) : Process :=
  { p with
    folder := p.folder.map fun place =>
      (p.folderNumber.bind (p.files.placeNow? · place)).getD (place.dropLast ++ [[]]) }

/-- The channels of a process. -/
def holds (p : Process) : List Nat :=
  p.descriptors.map (·.2) ++ p.spare

/-- Whether something is to be done at a signal, or at the end for 0. -/
def hasTrap (p : Process) (n : Nat) : Bool :=
  (p.traps.lookup n).any (!·.isEmpty)

/-- Whether something is to be done at any signal. -/
def hasTraps (p : Process) : Bool :=
  p.traps.any (!·.2.isEmpty)

/-- Whether a signal does nothing. -/
def ignores (p : Process) (n : Nat) : Bool :=
  p.ignored.contains n || (p.traps.lookup n).any (·.isEmpty)

end Process

end JarLens.Shell
