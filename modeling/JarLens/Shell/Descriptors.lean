import JarLens.Shell.Course

/-!
# Descriptors

What a process reads and writes by its descriptors. Writing to a pipe waits for room, and ends the
process where nobody can read any more; reading from one waits until something comes, and comes to
the end where nobody can write any more.
-/

namespace JarLens.Shell

/-- A file's content after bytes are written from a position on. -/
def overwritten (content bytes : ByteArray) (position : Nat) : ByteArray :=
  if position = content.size then content ++ bytes
  else
    let start := content.extract 0 position
    let gap : ByteArray := ⟨Array.replicate (position - content.size) 0⟩
    start ++ gap ++ bytes ++ content.extract (position + bytes.size) content.size

/-- The signal for a process that writes where nobody reads. -/
def brokenPipe : Nat := 13

/-- How long it takes until a process goes on that others have waited for. -/
def wakeTime : Nat := 35

/-- How long writing takes. -/
def writeTime : Nat := 2

/-- Whether what is opened can be read. -/
def OpenMode.reads (mode : OpenMode) : Bool :=
  mode = .read || mode = .readWrite

/-- Whether it is the end of a pipe that is read from. -/
def Channel.isSourceOf (k : Nat) : Channel → Bool
  | .source pipe => pipe == k
  | _ => false

/-- Whether it is the end of a pipe that is written to. -/
def Channel.isSinkOf (k : Nat) : Channel → Bool
  | .sink pipe => pipe == k
  | _ => false

namespace Run

/-! ## Channels -/

/-- What a descriptor leads to, with its position among the channels. -/
def channel? (descriptor : Nat) : Run (Option (Nat × Channel)) := do
  let p ← get
  pure ((p.descriptors.lookup descriptor).bind fun k => p.channels[k]?.map fun c => (k, c))

/-- Replaces a channel. -/
def setChannel (k : Nat) (c : Channel) : Run Unit :=
  modify fun p => { p with channels := p.channels.setIfInBounds k c }

/-- Adds a channel, and gives its position. -/
def addChannel (c : Channel) : Run Nat := do
  let p ← get
  set { p with channels := p.channels.push c }
  pure p.channels.size

/-- Adds a pipe, and gives the channels to its ends: the one to read from and the one to write
to. -/
def addPipe : Run (Nat × Nat) := do
  let k := (← get).pipes.size
  modify fun p => { p with pipes := p.pipes.push {} }
  pure (← addChannel (.source k), ← addChannel (.sink k))

/-- Changes a pipe, at which others may have waited. -/
def modifyPipe (k : Nat) (f : Pipe → Pipe) : Run Unit := do
  modify fun p => { p with pipes := p.pipes.modify k f }
  heed wakeTime

/-- Lets a descriptor lead to a channel. -/
def redirect (descriptor : Nat) (channel : Option Nat) : Run Unit :=
  modify (·.redirect descriptor channel)

/-! ## Writing -/

/-- Writes where nobody reads, which ends the process unless it has something else to do at the
signal. -/
def writeBroken : Run Bool := do
  let p ← get
  if p.ignores brokenPipe then pure false
  else if p.hasTrap brokenPipe then do
    set { p with arrived := p.arrived ++ [brokenPipe] }
    pure false
  else throw (.crashed brokenPipe)

/-- Writes some of the bytes to a pipe, as many as there is room for, and tells whether that can be
done. A piece that is small enough is written as a whole. -/
def writePart (k : Nat) (bytes : ByteArray) : Run (Round ByteArray Bool) := do
  let p ← get
  let pipe := p.pipes[k]?.getD {}
  if bytes.isEmpty then pure (.done true)
  else if pipe.isBounded && !p.isHeld (·.isSourceOf k) then do pure (.done (← writeBroken))
  else
    let least := if bytes.size ≤ pieceLimit then bytes.size else 1
    match pipe.room? with
    | none => do
      modifyPipe k (·.add bytes)
      pure (.done true)
    | some room =>
      if room < least then do
        await (.room k least)
        pure (.again bytes)
      else do
        modifyPipe k (·.add (bytes.extract 0 room))
        pure (.again (bytes.extract room bytes.size))

/-- Writes bytes, and tells whether that can be done. -/
def write (descriptor : Nat) (bytes : ByteArray) : Run Bool := do
  spend writeTime
  match ← channel? descriptor with
  | none => pure false
  | some (_, .device isFull mode) => pure (bytes.isEmpty || !isFull && mode != .read)
  | some (_, .sink k) => iterate (writePart k) roundLimit bytes
  | some (_, .source _) => pure false
  | some (_, .text _ _) => pure false
  | some (_, .file _ .read _) => pure false
  | some (k, .file number mode position) => do
    let p ← get
    match if bytes.isEmpty then none else p.files.node? number with
    | some (.file content bits) =>
      let position := if mode = .append then content.size else position
      let files := p.files.putKnown number (.file (overwritten content bytes position) bits)
      set { p with files }
      setChannel k (.file number mode (position + bytes.size))
    | _ => pure ()
    pure true

/-! ## Reading -/

/-- Reads as many bytes as `count` says of what is there and the position in it, none if that
cannot be done. At the end there are no bytes. With `isOpen` a signal that something is done at
counts as the end. -/
def readChannel? (isOpen : Bool) (count : ByteArray → Nat → Nat) (k : Nat) :
    Channel → Run (Option ByteArray)
  | .device _ mode => pure (if mode.reads then some .empty else none)
  | .text content position => do
    let n := count content position
    setChannel k (.text content (position + n))
    pure (some (content.extract position (position + n)))
  | .file number mode position =>
    if !mode.reads then pure none
    else do
      match (← get).files.node? number with
      | some (.file content _) =>
        let n := count content position
        setChannel k (.file number mode (position + n))
        pure (some (content.extract position (position + n)))
      | _ => pure (some .empty)
  | .sink _ => pure none
  | .source k => do
    let p ← get
    if (p.pipes[k]?.getD {}).count = 0 && p.isHeld (·.isSinkOf k) then await (.data k isOpen)
    let pipe := (← get).pipes[k]?.getD {}
    let n := count pipe.content pipe.position
    if n = 0 then pure (some .empty)
    else do
      modifyPipe k (·.drop n)
      pure (some (pipe.front n))

/-- Reads some bytes at a descriptor, none if that cannot be done. -/
def readPart? (isOpen : Bool) (count : ByteArray → Nat → Nat) (descriptor : Nat) :
    Run (Option ByteArray) := do
  match ← channel? descriptor with
  | none => pure none
  | some (k, c) => readChannel? isOpen count k c

/-- Joins parts that are read until there is nothing more, or one is the last. None if nothing can
be read. -/
def joinParts? (isLast : ByteArray → Bool) (part : Run (Option ByteArray)) :
    Run (Option ByteArray) :=
  iterate (fun bytes => do
      match ← part with
      | none => pure (.done none)
      | some more =>
        let all := bytes ++ more
        pure (if more.isEmpty || isLast more then .done (some all) else .again all))
    roundLimit .empty

/-- All bytes from a position on. -/
def restLength (content : ByteArray) (position : Nat) : Nat :=
  content.size - position

/-- Reads what there is now, or waits for it; none if that cannot be done. -/
def readSome? (descriptor : Nat) : Run (Option ByteArray) :=
  readPart? false restLength descriptor

/-- Reads all up to the end, none if that cannot be done. -/
def readAll? (descriptor : Nat) : Run (Option ByteArray) :=
  joinParts? (fun _ => false) (readSome? descriptor)

/-- The number of bytes from a position to the end of the line there, its end included. -/
def lineLength (content : ByteArray) (position : Nat) : Nat :=
  go (content.size - position) 0
where
  /-- The number of bytes in the line, of which `n` are counted. -/
  go : (steps n : Nat) → Nat
    | 0, n => n
    | steps + 1, n => if content[position + n]? == some 10 then n + 1 else go steps (n + 1)

/-- Reads a line, which lacks its end if the input ends there. -/
def readLine? (descriptor : Nat) : Run (Option ByteArray) :=
  joinParts? (fun bytes => bytes[bytes.size - 1]? == some 10)
    (readPart? true lineLength descriptor)

end Run

end JarLens.Shell
