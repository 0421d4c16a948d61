import JarLens.CommandLine.Run
import JarLens.Report.JsonReader

/-!
# Tools for clients

The three operations as tools that a client calls by name with parameters in JSON, each answering
with a text.
-/

namespace JarLens.Service

/-- The name of the server. -/
def serverName : Text :=
  "java-jar-viewer".toList

/-- What clients are told about the tools. -/
def instructions : Text :=
  "Use the provided tools to inspect JAR files. ".toList ++
    "Prefer list_jar_entries before read_jar_entry to confirm exact paths.".toList

/-- The kinds of parameters. -/
inductive ParameterKind where
  | text
  | flag
  | names
  deriving DecidableEq

/-- A parameter of a tool. -/
structure Parameter where
  name : Text
  kind : ParameterKind
  isRequired : Bool := false

/-- A tool. -/
structure Tool where
  name : Text
  description : Text
  parameters : List Parameter

/-- The tool that lists a folder of an archive. -/
def listTool : Tool where
  name := "list_jar_entries".toList
  description := "List top-level entries inside a JAR (folder-style view).

        innerPath narrows the listing to one directory, e.g. \"com/example\".
        ".toList
  parameters :=
    [{ name := "jarPath".toList, kind := .text, isRequired := true },
      { name := "innerPath".toList, kind := .text }]

/-- The tool that shows an entry. -/
def readTool : Tool where
  name := "read_jar_entry".toList
  description := "Read a specific file from a JAR.

        For .class files, prefer attached source (-sources.jar).
        Falls back to CFR decompilation, then to a javap signature summary.
        ".toList
  parameters :=
    [{ name := "jarPath".toList, kind := .text, isRequired := true },
      { name := "entryPath".toList, kind := .text, isRequired := true }]

/-- The tool that resolves dependencies. -/
def scanTool : Tool where
  name := "scan_project_dependencies".toList
  description := "Resolve absolute paths for Maven/Gradle dependencies.

        Supports excludeTransitive, query, and Gradle configurations
        filters; cached per project root.
        ".toList
  parameters :=
    [{ name := "projectPath".toList, kind := .text, isRequired := true },
      { name := "excludeTransitive".toList, kind := .flag },
      { name := "configurations".toList, kind := .names },
      { name := "includeLogTail".toList, kind := .flag },
      { name := "query".toList, kind := .text }]

/-- The tools by name. -/
def tools : List Tool :=
  [listTool, readTool, scanTool]

/-- The value of a parameter. -/
inductive Argument where
  | text (t : Text)
  | flag (b : Bool)
  | names (ts : Option (List Text))

/-- The truth value that a word stands for. -/
def flagWord? (t : Text) : Option Bool :=
  let word := Text.lower t
  let isOneOf := fun (names : List String) => names.any (·.toList == word)
  if isOneOf ["1", "on", "t", "true", "y", "yes"] then some true
  else if isOneOf ["0", "off", "f", "false", "n", "no"] then some false
  else none

/-- The texts of an array of strings. -/
def textsOf? : List Json → Option (List Text)
  | [] => some []
  | .text t :: items => (textsOf? items).map (t :: ·)
  | _ => none

/-- The value itself, or the null, array or object that a string writes. An array with half a
character in it counts as an object, which no parameter takes. -/
def unwrapped (value : Json) : Except Json.ReadFault Json :=
  match value with
  | .text t =>
    match Json.read t with
    | .ok .null => .ok .null
    | .ok (.array items) => .ok (if Json.hasUnpaired t then .object [] else .array items)
    | .ok (.object fields) => .ok (.object fields)
    | .ok _ | .error .malformed => .ok value
    | .error fault => .error fault
  | _ => .ok value

/-- The fields of a call, those for parameters other than texts being unwrapped. -/
def unwrappedFields (parameters : List Parameter) (fields : List (Text × Json)) :
    Except Json.ReadFault (List (Text × Json)) :=
  fields.mapM fun (name, value) =>
    if parameters.any fun p => p.name == name && p.kind ≠ .text then
      (unwrapped value).map (name, ·)
    else .ok (name, value)

/-- The names that a value gives: null or an array of strings. -/
def namesOf? (value : Json) : Option (Option (List Text)) :=
  match value with
  | .null => some none
  | .array items => (textsOf? items).map some
  | _ => none

/-- The value of a parameter of some kind, none when it is not of the kind. -/
def Argument.ofJson? : ParameterKind → Json → Option Argument
  | .text, .text t => some (.text t)
  | .flag, .bool b => some (.flag b)
  | .flag, .number 0 => some (.flag false)
  | .flag, .number 1 => some (.flag true)
  | .flag, .fraction x => x.bit?.map .flag
  | .flag, .text t => (flagWord? t).map .flag
  | .names, value => (namesOf? value).map .names
  | _, _ => none

/-- The parameters of a call by name, none when one is missing or of the wrong kind. -/
def bindParameters (fields : List (Text × Json)) : List Parameter → Option (List (Text × Argument))
  | [] => some []
  | p :: ps => do
    let rest ← bindParameters fields ps
    match fields.lookup p.name with
    | none => if p.isRequired then none else some rest
    | some value => some ((p.name, ← Argument.ofJson? p.kind value) :: rest)

/-- A parameter that is a text, none for an empty one. -/
def textArgument? (bound : List (Text × Argument)) (name : String) : Option Text :=
  match bound.lookup name.toList with
  | some (.text t) => if t = [] then none else some t
  | _ => none

/-- A parameter that is a truth value. -/
def flagArgument (bound : List (Text × Argument)) (name : String) : Bool :=
  match bound.lookup name.toList with
  | some (.flag b) => b
  | _ => false

/-- A parameter that is a list of names. -/
def namesArgument (bound : List (Text × Argument)) (name : String) : List Text :=
  match bound.lookup name.toList with
  | some (.names (some ts)) => ts
  | _ => []

/-- What a tool answers. -/
def Tool.answer (t : Tool) (bound : List (Text × Argument)) : Action Text := do
  let path := fun name => (textArgument? bound name).getD []
  match String.ofList t.name with
  | "list_jar_entries" =>
    let (archive, listing) ← Action.look
      (·.list CommandLine.listedRows (path "jarPath") (path "innerPath"))
    pure (listing.toJson archive).compact
  | "read_jar_entry" => do
    pure (← Source.readEntry (path "jarPath") (path "entryPath")).content
  | _ =>
    let result ← Dependency.scan (path "projectPath")
      { excludeTransitive := flagArgument bound "excludeTransitive"
        configurations := (namesArgument bound "configurations").map some
        includeLogTail := flagArgument bound "includeLogTail"
        query := textArgument? bound "query" }
    pure result.toJson.compact

/-- What a call gives when it gives no answer. -/
inductive CallFault where
  | unknownTool (name : Text)
  | badParameters
  /-- A parameter is a string that cannot be read. -/
  | unreadable (tool : Text) (cause : Json.ReadFault)
  | failed (tool : Text) (cause : Failure)
  deriving DecidableEq

/-- What the client is told of a tool that did not come to its end. -/
def troubleMessage (tool message : Text) : Text :=
  "Error executing tool ".toList ++ tool ++ ": ".toList ++ message

/-- What the client is told of a call without an answer, if there is anything to tell beyond the
parameters being wrong. -/
def CallFault.message? : CallFault → Option Text
  | unknownTool name => some ("Unknown tool: ".toList ++ name)
  | badParameters => none
  | unreadable tool cause => some (troubleMessage tool cause.message)
  | failed tool cause => some (troubleMessage tool cause.message)

/-- Calls a tool. -/
def call (name : Text) (fields : List (Text × Json)) : Action (Except CallFault Text) :=
  match tools.find? (·.name == name) with
  | none => pure (.error (.unknownTool name))
  | some t =>
    match unwrappedFields t.parameters fields with
    | .error cause => pure (.error (.unreadable name cause))
    | .ok fields =>
      match bindParameters fields t.parameters with
      | none => pure (.error .badParameters)
      | some bound =>
        tryCatch (Except.ok <$> t.answer bound) fun cause => pure (.error (.failed name cause))

end JarLens.Service
