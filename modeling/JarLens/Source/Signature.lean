import JarLens.Source.Decompiler

/-!
# Signatures

A class whose source text cannot be had still shows the signatures of its public members, as the
`javap` command prints them.
-/

namespace JarLens.Source

/-- The arguments with which the signatures of a class in an archive are printed. -/
def signatureArguments (archive className : Text) : List Text :=
  ["-classpath".toList, archive, "-public".toList, className]

/-- What is asked of the command that prints the signatures of a class, on a machine. -/
def signatureRequest (m : Machine) (archive className : Text) : ToolRequest :=
  { command := m.environment.javap, arguments := signatureArguments archive className
    project := some archive }

/-- The signatures that a run of the command printed, none when it failed or printed nothing. -/
def printedSignatures? (o : Outcome) : Option Text :=
  let said := firstNonEmpty o.stdout o.stderr
  if o.ok && said != [] then some said else none

/-- The signatures of a class, none when the command cannot be started, fails or prints nothing. -/
def signature (archive className : Text) : Action (Option Text) := do
  match ← orNoTool (runTool (signatureRequest (← Action.machine) archive className)) with
  | .error _ => pure none
  | .ok outcome => pure (printedSignatures? outcome)

end JarLens.Source
