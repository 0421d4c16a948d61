import JarLens.Shell.Locale

/-!
# Utilities

A utility is a program that scripts start by name: it takes the name that it was started by and its
arguments, and gives a status. Its options can stand anywhere before two dashes, as letters behind
one dash or as long names behind two. It complains in its own name, and goes on after an operand
that it has to complain about.
-/

namespace JarLens.Shell

/-- A utility, from its name and arguments to its status. -/
abbrev Utility := (name : Text) → (arguments : List Text) → Run Nat

namespace Utility

/-- What the system says of a path that it refuses. -/
def faultText : PathFault → Text
  | .missing => "No such file or directory".toList
  | .notFolder => "Not a directory".toList
  | .isFolder => "Is a directory".toList
  | .tooLong => "File name too long".toList
  | .linkLoop => "Too many levels of symbolic links".toList
  | .exists => "File exists".toList
  | .denied => "Permission denied".toList
  | .notEmpty => "Directory not empty".toList
  | .busy => "Device or resource busy".toList
  | .invalid => "Invalid argument".toList
  | .notProgram => "Exec format error".toList
  | .tooBig => "Argument list too long".toList

/-- A complaint about a path that the system refuses. -/
def refusal (words : Message) (path : Text) (fault : PathFault) : Message :=
  words ++ [' '] ++ inQuotes path ++ ": ".toList ++ faultText fault

/-- Complains in the name of a utility, which fails. -/
def refuse (name : Text) (complaint : Message) : Run Nat := do
  Run.complain (name ++ encoded (": ".toList ++ complaint.write (← Run.glyphs)))
  pure 1

/-- Complains about how a utility was started. -/
def refuseUse (name : Text) (complaint : Message) : Run Nat :=
  refuse name
    (complaint ++ "\nTry ".toList ++ betweenPlainQuotes (decoded name ++ " --help".toList) ++
      " for more information.".toList)

/-- Prints bytes, and complains if that cannot be done. -/
def printBytes (name : Text) (bytes : ByteArray) : Run Nat := do
  if bytes.isEmpty then pure 0
  else if ← Run.write 1 bytes then pure 0
  else
    let cause := match ← Run.channel? 1 with
      | some (_, .device _ .read) => "Bad file descriptor"
      | some (_, .device true _) => "No space left on device"
      | some (_, .sink _) => "Broken pipe"
      | _ => "Bad file descriptor"
    refuse name ("write error: ".toList ++ cause.toList)

/-- Prints a line. -/
def printLine (name : Text) (line : Message) : Run Nat := do
  printBytes name (Text.encodeUtf8 (line.write (← Run.glyphs) ++ ['\n']))

/-- The greatest of the statuses that an action gives for each operand. -/
def forEach {α : Type} (f : α → Run Nat) : List α → Run Nat
  | [] => pure 0
  | t :: ts => do
    let status ← f t
    let others ← forEach f ts
    pure (max status others)

/-- Which options a utility knows. -/
structure OptionTable where
  /-- The letters, each before a colon if it takes an argument. -/
  letters : String
  /-- The letters that long names stand for. A letter that is not among the known ones is that of
  a name that only makes others ambiguous. -/
  longNames : List (String × Char) := []
  /-- The letters whose long names may have an argument behind an equals sign. -/
  openLetters : String := ""

/-- What arguments are. -/
structure Arguments where
  /-- The options by letter, with their arguments. -/
  options : List (Char × Text) := []
  operands : List Text := []

namespace Arguments

/-- Whether an option is given. -/
def has (a : Arguments) (c : Char) : Bool :=
  a.options.any (·.1 == c)

/-- Whether one of some options is given. -/
def hasAny (a : Arguments) (letters : String) : Bool :=
  letters.toList.any a.has

/-- The arguments with one more option in front. -/
def addOption (a : Arguments) (c : Char) (value : Text) : Arguments :=
  { a with options := (c, value) :: a.options }

end Arguments

/-- Whether a letter takes an argument, none for one that is not known. -/
def takesArgument (letters : Text) (c : Char) : Option Bool :=
  match letters with
  | [] => none
  | d :: ':' :: rest => if c == d then some true else takesArgument rest c
  | d :: rest => if c == d then some false else takesArgument rest c

/-- A long name by its beginning, with its letter, or the names that it could be. -/
def longOption (table : OptionTable) (key : Text) : Except (List String) (Text × Char) :=
  match table.longNames.find? fun (known, _) => known.toList == key with
  | some (known, c) => .ok (known.toList, c)
  | none =>
    match table.longNames.filter fun (known, _) => Text.startsWith known.toList key with
    | [(known, c)] => .ok (known.toList, c)
    | several => .error (several.map (·.1))

/-- A long name as it is given. -/
def inLongQuotes (name : Text) : Text :=
  betweenPlainQuotes ('-' :: '-' :: name)

/-- The complaint about a long name that is several names' beginning, or none's. -/
def longNameComplaint (name : Text) : List String → Text
  | [] => "unrecognized option ".toList ++ inLongQuotes name
  | several => "option ".toList ++ inLongQuotes name ++ " is ambiguous; possibilities:".toList ++
    several.flatMap fun known => ' ' :: inLongQuotes known.toList

/-- A letter of an option in a complaint. Of one beyond ASCII only the first byte is shown. -/
def letterShown (c : Char) : Text :=
  betweenPlainQuotes [if c.toNat < 128 then c else '\ufffd']

/-- What arguments are by a table, or what is wrong with them. The letters `cluster` are still to be
taken from the argument before. -/
def readArguments (table : OptionTable) : (steps : Nat) → (cluster : Text) → List Text →
    Except Text Arguments
  | 0, _, _ => .ok {}
  | _, [], [] => .ok {}
  | steps + 1, c :: cluster, arguments =>
    match takesArgument table.letters.toList c with
    | none => .error ("invalid option -- ".toList ++ letterShown c)
    | some false => do
      pure ((← readArguments table steps cluster arguments).addOption c [])
    | some true =>
      match cluster, arguments with
      | [], [] => .error ("option requires an argument -- ".toList ++ letterShown c)
      | [], value :: rest => do pure ((← readArguments table steps [] rest).addOption c value)
      | value, rest => do pure ((← readArguments table steps [] rest).addOption c value)
  | _, [], ['-', '-'] :: rest => .ok { operands := rest }
  | steps + 1, [], ('-' :: '-' :: name) :: rest =>
    let key := name.takeWhile (· != '=')
    let value := if key.length < name.length then some (name.drop (key.length + 1)) else none
    match longOption table key with
    | .error several => .error (longNameComplaint name several)
    | .ok (known, c) =>
      match takesArgument table.letters.toList c, value, rest with
      | none, _, _ => .error (longNameComplaint name [])
      | some true, none, [] =>
        .error ("option ".toList ++ inLongQuotes known ++ " requires an argument".toList)
      | some true, none, value :: rest => do
        pure ((← readArguments table steps [] rest).addOption c value)
      | some takes, value, rest =>
        if value.isSome && !takes && !table.openLetters.toList.any (· == c) then
          .error ("option ".toList ++ inLongQuotes known ++ " doesn\x27t allow an argument".toList)
        else do
          pure ((← readArguments table steps [] rest).addOption c (value.getD []))
  | steps + 1, [], ('-' :: c :: cluster) :: rest => readArguments table steps (c :: cluster) rest
  | steps + 1, [], operand :: rest => do
    let a ← readArguments table steps [] rest
    pure { a with operands := operand :: a.operands }

/-- A utility from what it does with its arguments, which a table tells apart. Its operands are
names of files. -/
def ofTable (table : OptionTable) (body : (name : Text) → Arguments → Run Nat) : Utility :=
  fun name arguments =>
    let arguments := arguments.map decoded
    let steps := arguments.foldl (fun n a => n + a.length + 2) 2
    match readArguments table steps [] arguments with
    | .ok a => body name a
    | .error complaint => refuseUse name complaint

/-- The place that relative paths start from. In a folder that was removed they lead to nothing. -/
def start (p : Process) : Place :=
  p.folder.getD [[]]

/-- Changes the files, or complains in the name of a utility. -/
def change (name : Text) (f : Files → Place → Except Message Files) : Run Nat := do
  let p ← get
  match f p.files (start p) with
  | .ok files => do set { p with files }; pure 0
  | .error complaint => refuse name complaint

end Utility

end JarLens.Shell
