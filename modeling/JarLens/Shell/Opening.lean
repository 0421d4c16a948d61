import JarLens.Files.Walk
import JarLens.Shell.Descriptors

/-!
# Opening files

Where the paths lead that a process uses, and the channels to what lies there.
-/

namespace JarLens.Shell.Run

/-- The place where a path starts. -/
def here (p : Process) (path : Text) : Except PathFault Place :=
  match p.folder with
  | some place => .ok place
  | none => if path.head? = some '/' then .ok [] else .error .missing

/-- Where a path leads. -/
def walk (p : Process) (follow : Bool) (path : Text) : Except PathFault Spot := do
  let path := decoded path
  let place ← here p path
  p.files.walk follow place path

/-- What lies where a path leads. -/
def find (p : Process) (path : Text) : Except PathFault Node := do
  match ← walk p true path with
  | ⟨_, some node⟩ => .ok node
  | ⟨_, none⟩ => .error .missing

/-- The descriptor that a path in the folder of devices stands for. -/
def deviceDescriptor? (path : Text) : Option Nat :=
  if path == "/dev/stdin".toList then some 0
  else if path == "/dev/stdout".toList then some 1
  else if path == "/dev/stderr".toList then some 2
  else (Text.dropPrefix? "/dev/fd/".toList path).bind (Text.number? 10)

/-- Whether permission bits let a file be opened. -/
def permits (mode : OpenMode) (bits : Nat) : Bool :=
  match mode with
  | .read => isReadable bits
  | .readWrite => isReadable bits && isWritable bits
  | _ => isWritable bits

/-- What can be read where a path leads. -/
def findReadable (p : Process) (path : Text) : Except PathFault Node := do
  let node ← find p path
  if node.isReadable then .ok node else .error .denied

/-- Whether a path is a link that leads nowhere. -/
def isDeadLink (p : Process) (path : Text) : Bool :=
  match walk p false path, find p path with
  | .ok ⟨_, some (.link _)⟩, .error _ => true
  | _, _ => false

/-- Adds a channel to what lies at a place, and gives its position. -/
def addFile (mode : OpenMode) (place : Place) : Run (Except PathFault Nat) := do
  match (← get).files.number? place with
  | some number => do pure (.ok (← addChannel (.file number mode 0)))
  | none => pure (.error .missing)

/-- Opens a file, and gives the position of its channel. -/
def openFile (mode : OpenMode) (path : Text) : Run (Except PathFault Nat) := do
  let p ← get
  match deviceDescriptor? path with
  | some descriptor =>
    match p.descriptors.lookup descriptor with
    | some k => pure (.ok k)
    | none => pure (.error .missing)
  | none =>
    let namesFolder := mode != .read && path.getLast? = some '/'
    let keepsFiles := mode = .write && p.options.any (· == 'C')
    if keepsFiles && isDeadLink p path then pure (.error .exists)
    else match walk p true (if namesFolder then Files.dropFinalSlashes path else path) with
    | .error fault => pure (.error fault)
    | .ok ⟨place, none⟩ =>
      if mode = .read then pure (.error .missing)
      else if namesFolder then pure (.error .isFolder)
      else if !p.files.mayChange place.dropLast then pure (.error .denied)
      else do
        set { p with files := p.files.put place (.file .empty (0o666 &&& (0o777 ^^^ p.mask))) }
        addFile mode place
    | .ok ⟨place, some (.file _ bits)⟩ =>
      if namesFolder then pure (.error .isFolder)
      else if keepsFiles then pure (.error .exists)
      else if !permits mode bits then pure (.error .denied)
      else do
        if mode = .write || mode = .overwrite then
          set { p with files := p.files.put place (.file .empty bits) }
        addFile mode place
    | .ok ⟨_, some (.device isFull)⟩ =>
      if namesFolder then pure (.error .isFolder)
      else do pure (.ok (← addChannel (.device isFull mode)))
    | .ok ⟨place, some node⟩ =>
      if mode != .read then pure (.error .isFolder)
      else if !node.isReadable then pure (.error .denied)
      else addFile mode place

end JarLens.Shell.Run
