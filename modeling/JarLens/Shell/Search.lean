import JarLens.Shell.Utility.Table

/-!
# Finding programs

How the system finds what a path or a name starts. Programs of the system lie in two folders; any
other program is a script, which names its interpreter on its first line. A file without such a line
is no program for the system, but the shell runs it as a script of its own.
-/

namespace JarLens.Shell

/-- What can be started. -/
inductive Program where
  | utility (run : Utility)
  /-- The shell, and the version that its scripts are told. -/
  | shell (version : Option Text)
  /-- The program that starts another one in a changed environment. -/
  | environment
  | file (content : ByteArray)

/-- The names of the shell, and the version that it tells its scripts under a name. -/
def shellNames : List (Text × Option Text) :=
  [(['s', 'h'], none), (['d', 'a', 's', 'h'], none),
    (['b', 'a', 's', 'h'], some "5.2.15(1)-release".toList)]

/-- The program of the system with a name. -/
def systemProgram? (name : Text) : Option Program :=
  match shellNames.lookup name with
  | some version => some (.shell version)
  | none =>
    if name == ['e', 'n', 'v'] then some .environment
    else (Utility.table.lookup name).map .utility

/-- The program of the system that a path leads to. -/
def systemProgramAt? (path : Text) : Option Program :=
  if path.head? = some '/' && path.getLast? != some '/' then
    match (PathName.ofText path).parts with
    | [folder, name] => if folder == "bin".toList then systemProgram? name else none
    | [above, folder, name] =>
      if above == "usr".toList && folder == "bin".toList then systemProgram? name else none
    | _ => none
  else none

/-- The folders of the system. -/
def systemFolders : List Text :=
  ["/boot", "/dev", "/etc", "/home", "/media", "/mnt", "/opt", "/proc", "/root", "/run", "/srv",
    "/sys", "/tmp", "/usr/bin", "/usr/games", "/usr/lib", "/usr/lib64", "/usr/local/bin",
    "/usr/sbin", "/usr/share", "/var/backups", "/var/cache", "/var/lib", "/var/log", "/var/mail",
    "/var/spool", "/var/tmp"].map String.toList

/-- The links of the system, and what they hold. -/
def systemLinks : List (Text × Text) :=
  [("/bin", "usr/bin"), ("/lib", "usr/lib"), ("/lib64", "usr/lib64"), ("/sbin", "usr/sbin"),
    ("/var/run", "/run")].map fun (path, target) => (path.toList, target.toList)

/-- What the files of the system's programs start with. -/
def programMark : ByteArray :=
  ⟨#[127, 69, 76, 70]⟩

/-- The devices of the system, and whether they are full. -/
def systemDevices : List (Text × Bool) :=
  [("/dev/null".toList, false), ("/dev/full".toList, true)]

/-- The files of the system: its folders, links and devices, and its programs. -/
def systemFiles : Files :=
  let files := systemFolders.foldl (fun files path =>
    files.makeFolders (PathName.ofText path).parts) ({} : Files)
  let files := systemLinks.foldl (fun files (path, target) =>
    files.put (PathName.ofText path).parts (.link target)) files
  let files := systemDevices.foldl (fun files (path, isFull) =>
    files.put (PathName.ofText path).parts (.device isFull)) files
  (shellNames.map (·.1) ++ ["env".toList] ++ Utility.table.map (·.1)).foldl (fun files name =>
    files.put ["usr".toList, "bin".toList, name] (.file programMark 0o755)) files

/-- The program that a path leads to, which has to be a file that may be run. -/
def programAt (p : Process) (path : Text) : Except PathFault Program :=
  match systemProgramAt? path with
  | some program => .ok program
  | none =>
    match Run.find p path with
    | .ok (.file content bits) => if isExecutable bits then .ok (.file content) else .error .denied
    | .ok _ => .error .denied
    | .error fault => .error fault

/-- The paths at which the search path lets a name lie. -/
def searchedPaths (search name : Text) : List Text :=
  (Text.splitOn ':' search).map fun folder =>
    if folder.isEmpty then name else folder ++ '/' :: name

/-- The first of some paths that leads to a program, or the last fault that is no absence. -/
def firstProgram (p : Process) (fault : PathFault) : List Text → Except PathFault Text
  | [] => .error fault
  | path :: paths =>
    match programAt p path with
    | .ok _ => .ok path
    | .error .missing => firstProgram p fault paths
    | .error .notFolder => firstProgram p fault paths
    | .error other => firstProgram p other paths

/-- The search path that the system starts with. -/
def systemSearch : Text :=
  "/usr/local/sbin:/usr/local/bin:/usr/sbin:/usr/bin:/sbin:/bin".toList

/-- The path of the program that a name means along a search path, or along that of the process. -/
def search (p : Process) (along : Option Text) (name : Text) : Except PathFault Text :=
  let own := (p.bindings.lookup "PATH".toList).bind (·.value)
  match along <|> own with
  | some folders => firstProgram p .missing (searchedPaths folders name)
  | none => .error .missing

/-- What is told of a program that cannot be started. -/
def startFaultText : PathFault → Text
  | .missing => "not found".toList
  | .notFolder => "not found".toList
  | fault => Utility.faultText fault

/-- The status of a command whose program cannot be started. -/
def startFaultStatus : PathFault → Nat
  | .missing | .notFolder | .tooLong | .linkLoop => 127
  | _ => 126

/-! ## Interpreters -/

/-- How much of a file the system reads to find its interpreter. What the file lacks of it counts as
zeros. -/
def interpreterLimit : Nat := 256

/-- The interpreter that the first line of a script names, with its argument if there is one. A zero
ends both. A line that does not end in what the system reads loses the rest of its argument, but its
interpreter must not be cut. -/
def interpreter? (content : ByteArray) : Option (Text × Option Text) := do
  let read ← Text.dropPrefix? ['#', '!'] (ofBytes (content.extract 0 interpreterLimit))
  let filled := read ++ List.replicate (interpreterLimit - 2 - read.length) '\x00'
  let line := filled.takeWhile (· != '\n')
  let isEnd := fun c => isBlank c || c == '\x00'
  if line.length == filled.length && !(Text.trimStart isBlank line).any isEnd then none
  else
    match Text.trimStart isBlank (Text.trimEnd isBlank (line.take (interpreterLimit - 3))) with
    | [] => none
    | line =>
      let path := line.takeWhile (!isEnd ·)
      match line.drop path.length with
      | ' ' :: rest | '\t' :: rest =>
        some (path, some ((Text.trimStart isBlank rest).takeWhile (· != '\x00')))
      | _ => some (path, none)

/-- A program with the name and the arguments that it is started with. -/
structure Start where
  program : Program
  name : Text
  arguments : List Text

/-- The greatest size of an argument or a variable, with the zero at its end. -/
def argumentLimit : Nat := 131072

/-- The greatest size of all that a program is started with. -/
def argumentsLimit : Nat := 2097152

/-- The size of the address of an argument or a variable. -/
def addressSize : Nat := 8

/-- Whether a program at a path can be started with arguments, its name among them. -/
def isStartable (p : Process) (path : Text) (arguments : List Text) : Bool :=
  let variableSizes := (Run.exportedOf p).map fun (name, value) => name.length + value.length + 2
  let sizes := arguments.map (·.length + 1) ++ variableSizes
  sizes.all (· ≤ argumentLimit) &&
    path.length + 1 + sizes.foldl (· + ·) 0 + addressSize * sizes.length ≤ argumentsLimit

/-- How many programs the system looks at, one the interpreter of another, to start one. -/
def interpreterDepth : Nat := 6

/-- How the system starts what lies at a path, and the interpreters that it takes. An interpreter
without a name means the folder of the process, which is no program. -/
def startAt (p : Process) : (depth : Nat) → (path name : Text) → (arguments : List Text) →
    Except PathFault Start
  | 0, path, _, _ => do
    let _ ← programAt p path
    .error .linkLoop
  | depth + 1, path, name, arguments => do
    let program ← programAt p path
    if !isStartable p path (name :: arguments) then .error .tooBig
    else
      match program with
      | .file content =>
        match interpreter? content with
        | none => .error .notProgram
        | some ([], _) => .error .denied
        | some (interpreter, argument) =>
          startAt p depth interpreter interpreter (argument.toList ++ path :: arguments)
      | _ => pure { program, name, arguments }

/-- How much of a file is looked at to tell whether it is text. -/
def textLimit : Nat := 128

/-- Whether a byte can stand in a text. -/
def isTextByte (b : UInt8) : Bool :=
  32 ≤ b && b ≠ 127 || (9 ≤ b && b < 16) || b = 27

/-- Whether the first line of a file is text. -/
def isTextFile (content : ByteArray) : Bool :=
  let start := (content.extract 0 textLimit).toList
  (start.takeWhile (· ≠ 10)).all isTextByte

/-- How the shell starts what lies at a path: as the system does, or as a script of its own. -/
def shellStartAt (p : Process) (path name : Text) (arguments : List Text) :
    Except PathFault Start :=
  match startAt p interpreterDepth path name arguments with
  | .error .notProgram =>
    match programAt p path with
    | .ok (.file content) =>
      if isTextFile content then
        .ok { program := .shell none, name := "/bin/sh".toList, arguments := path :: arguments }
      else .error .notProgram
    | _ => .error .notProgram
  | started => started

end JarLens.Shell
