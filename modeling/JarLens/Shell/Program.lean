import JarLens.Shell.Evaluation
import JarLens.Tool.Action

/-!
# Running programs

How programs run on a machine: the system looks through the search path, checks that what it finds
may be run, and hands a script to the interpreter that its first line names. `launcher` is how tools
behave on a machine whose programs are the utilities of the system and scripts of its shell.
-/

namespace JarLens.Shell

/-- What a fault about a path means for who starts the program. -/
def faultOf (path : Text) : PathFault → LaunchFault
  | .missing => .missing
  | .denied => .notExecutable
  | .notFolder => .trouble (.notFolder path)
  | .tooLong => .trouble (.tooLong path)
  | .linkLoop => .trouble (.manyLinks path)
  | .tooBig => .trouble (.tooBig path)
  | _ => .trouble (.notProgram path)

/-- How deeply commands can stand inside of one another while they run. -/
def depthLimit : Nat := 100000

/-- The processes of a machine with what they share. Where nothing is left of them, only the numbers
go on. -/
def systemOf (m : Machine) : System :=
  if m.processes.tasks.isEmpty && m.processes.outsiders.isEmpty then
    { files := m.files, nextNumber := m.processes.nextNumber }
  else { m.processes with files := m.files }

/-- A process that is started from outside, in a folder. Nothing comes from its input, and its
output goes into two pipes. -/
def firstProcess (m : Machine) (folder : Option Place) (s : System) : Process × System :=
  let pipe : Pipe := { isBounded := false }
  let (stdout, k) := (s.pipes.size, s.channels.size)
  let channels := #[Channel.null, .sink stdout, .sink (stdout + 1)]
  let number := s.nextNumber
  ({ number, scriptNumber := number
     folder := folder
     folderNumber := folder.bind s.files.number?
     folderPath := []
     descriptors := [(0, k), (1, k + 1), (2, k + 2)]
     bindings := startVariables (firstNumber - 1) (m.environment.bindings.map fun (name, value) =>
       (encoded name, encoded value))
     zero := []
     parameters := []
     homes := m.homes },
   { s with
     channels := s.channels ++ channels
     pipes := (s.pipes.push pipe).push pipe
     nextNumber := number + 1
     outsiders := s.outsiders ++ [{ number, stdout, stderr := stdout + 1 }] })

/-- Whether the search goes on after a fault without keeping it in mind. -/
def isAbsence : PathFault → Bool
  | .missing => true
  | .notFolder => true
  | _ => false

/-- How the first of some paths starts that can be started. Otherwise the first fault that is no
absence, and the last fault if all are. -/
def firstStart (p : Process) (arguments : List Text) :
    (kept : Option PathFault) → (last : PathFault) → List Text → Except PathFault Start
  | kept, last, [] => .error (kept.getD last)
  | kept, _, path :: paths =>
    match startAt p interpreterDepth path path arguments with
    | .ok start => .ok start
    | .error fault =>
      firstStart p arguments (kept <|> if isAbsence fault then none else some fault) fault paths

/-- The folder that a program is started in. -/
def startFolder (m : Machine) : Option Text → Except PathFault (Option Place)
  | none => .ok m.folder
  | some path =>
    match m.folder, path.head? with
    | none, some '/' => (lead [] path).map some
    | none, _ => if Machine.staysPut path then .ok none else .error .missing
    | some here, _ => (lead here path).map some
where
  /-- The folder that a path leads to. -/
  lead (here : Place) (path : Text) : Except PathFault Place :=
    match m.files.walk true here path with
    | .ok ⟨place, some (.folder mode)⟩ => if isExecutable mode then .ok place else .error .denied
    | .ok ⟨_, some _⟩ => .error .notFolder
    | .ok ⟨_, none⟩ => .error .missing
    | .error fault => .error fault

/-- How long it takes to start a tool. -/
def toolTime : Nat := 1500

/-- Starts a tool on a machine. Others run until it is there. -/
def startTool (m : Machine) (l : Launch) : Except LaunchFault (Nat × Site) :=
  if '\x00' ∈ l.command || l.arguments.any ('\x00' ∈ ·) || '\x00' ∈ l.folder.getD [] then
    .error (.trouble .nul)
  else
    match startFolder m l.folder with
    | .error fault => .error (faultOf (l.folder.getD []) fault)
    | .ok folder =>
      let s := (systemOf m).runUntil (m.files.clock + toolTime)
      let (p, s) := firstProcess m folder s
      let paths := (m.environment.programPaths l.command).map encoded
      let arguments := l.arguments.map encoded
      match firstStart { p with files := s.files } arguments none .missing paths with
      | .error fault => .error (faultOf l.command fault)
      | .ok start =>
        let life := fun (p : Process) => (become (run depthLimit) start p).life
        let s := s.add (System.taskOf (.turn s.now) p life)
        .ok (p.number, { files := s.files, processes := { s with files := {} } })

/-- The exit code of a process that ended. -/
def Exit.toCode : Exit → Int
  | .status n => (n % 256 : Nat)
  | .signal n => -n

/-- How long it takes until it shows that a tool is finished. -/
def finishTime : Nat := 1000

/-- Lets processes run until one of some tools is finished. Others go on for the time until that
shows. -/
def awaitTool (m : Machine) (first : Nat) (others : List Nat) : Nat × Finished × Site :=
  let isAwaited := fun (o : Outsider) => (first :: others).contains o.number
  let isOver := fun (s : System) => s.outsiders.any fun o => isAwaited o && s.isOver o
  let s := System.run isOver System.farMoment System.turnLimit (systemOf m)
  let s := s.runUntil (s.now + finishTime)
  let site := fun (s : System) => ({ files := s.files, processes := { s with files := {} } } : Site)
  match s.outsiders.find? fun o => isAwaited o && s.isOver o with
  | none => (first, { exitCode := -9, stdout := .empty, stderr := .empty }, site s)
  | some o =>
    let bytes := fun (k : Nat) => (s.pipes[k]?.getD {}).content
    let exitCode := (o.exit.map Exit.toCode).getD (-9)
    let finished := { exitCode, stdout := bytes o.stdout, stderr := bytes o.stderr }
    (o.number, finished,
      site { s with outsiders := s.outsiders.filter (·.number != o.number) })

/-- How tools behave on a machine whose programs are scripts. -/
def launcher : Launcher where
  start := startTool
  await := awaitTool

end JarLens.Shell
