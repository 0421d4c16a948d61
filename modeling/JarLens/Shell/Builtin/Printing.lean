import JarLens.Shell.Builtin.Basic
import JarLens.Shell.Condition
import JarLens.Shell.Printing

/-!
# Builtins that print and ask

Printing words and formats, and asking whether a condition holds. A few commands that tell about
time and limits have always the same to tell.
-/

namespace JarLens.Shell.Builtin

/-- Prints bytes, with the status `status` if that can be done. -/
def printBytes (bytes : ByteArray) (status : Nat) : Run Nat := do
  if bytes.isEmpty then pure status
  else if ← Run.write 1 bytes then pure status
  else do
    let name := ((← get).speaker).getD []
    Run.warn (name ++ ": I/O error".toList)
    pure (status ||| 1)

/-- Prints its arguments with blanks between, and a line end unless the first one is `-n`. -/
def echo : Builtin := fun arguments => do
  let isOpen := arguments.head? == some ['-', 'n']
  let t := Text.join [' '] (if isOpen then arguments.drop 1 else arguments)
  let (bytes, isFinal) := expandEscapes t.length .empty t
  printBytes (if isFinal || isOpen then bytes else bytes.push 10) 0

/-- What is told of an argument that has to be a number. -/
def numberComplaint : Complaint → Text
  | { argument, fault, .. } => argument ++ match fault with
    | .noNumber => ": expected numeric value".toList
    | .hasRest => ": not completely converted".toList
    | .outOfRange => ": Numerical result out of range".toList

/-- What is told of a conversion. -/
def conversionComplaint : FormatFault → Text
  | .noKind _ => "missing format character".toList
  | .unknown t => t ++ ": invalid directive".toList

/-- Prints a part of a printout, and tells what is wrong where that shows. What is held back then
is printed later, with what is done at the end. -/
def printParts (bytes : ByteArray) (finish : (rest : ByteArray) → Run Nat) :
    (start : Nat) → List Complaint → Run Nat
  | start, [] => finish (bytes.extract start bytes.size)
  | start, complaint :: complaints => do
    let position := complaint.printed - complaint.held
    let _ ← printBytes (bytes.extract start position) 0
    Run.warn (numberComplaint complaint)
    printParts bytes finish position complaints

/-- Prints its arguments in a format. -/
def printf : Builtin := fun arguments => do
  let (_, operands) ← options "" arguments
  match operands with
  | [] => Run.fail "usage: printf format [arg ...]".toList
  | format :: arguments =>
    let printout := printFormat (arguments.length + 1) {} format arguments
    let finish := fun (rest : ByteArray) => do
      match printout.fault with
      | some fault =>
        let position := rest.size - printout.held
        let _ ← printBytes (rest.extract 0 position) 0
        tryCatch (Run.fail (conversionComplaint fault)) fun ending => do
          let _ ← printBytes (rest.extract position rest.size) 0
          throw ending
      | none => printBytes rest (if printout.complaints.isEmpty then 0 else 1)
    printParts printout.bytes finish 0 printout.complaints

/-- Tells whether the condition that its arguments make holds. -/
def test : Builtin := fun arguments => do
  match conditionHolds (← get) arguments with
  | .ok holds => pure (if holds then 0 else 1)
  | .error fault => Run.fail fault.message

/-- Tells whether the condition in brackets holds. What follows the last bracket does not count. -/
def bracket : Builtin := fun arguments => do
  if (arguments.getLast?.bind (·.head?)) == some ']' then test arguments.dropLast
  else Run.fail "missing ]".toList

/-- The command with a status, whatever its arguments are. -/
def withStatus (status : Nat) : Builtin :=
  fun _ => pure status

/-- Shows the time that was used, which is none here. -/
def times : Builtin := fun _ =>
  print "0m0.000000s 0m0.000000s\n0m0.000000s 0m0.000000s\n".toList

/-- Shows the limits of the process, of which there are none here. -/
def ulimit : Builtin := fun _ =>
  printLine "unlimited".toList

end JarLens.Shell.Builtin
