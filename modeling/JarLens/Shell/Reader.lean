import JarLens.Shell.Command

/-!
# Reading scripts

A script is read command by command, each just before it runs. `Source` is what is left to read,
with the texts that are still to come for redirections from the script itself. A backslash before a
line end joins two lines wherever it is not quoted.
-/

namespace JarLens.Shell

/-- What a redirection is about, before its target is read. -/
inductive RedirectionSign where
  | file (mode : OpenMode)
  | duplicate
  /-- A text in the script, from which leading tabs may be left out. -/
  | document (dropsTabs : Bool)

/-- A token. -/
inductive Token where
  | finish
  | newline
  | word (w : Word)
  /-- An operator or a reserved word. -/
  | sign (name : String)
  | redirection (descriptor : Nat) (sign : RedirectionSign)

/-- What a message calls a token. -/
def Token.label : Token → String
  | .finish => "end of file"
  | .newline => "newline"
  | .word _ => "word"
  | .sign name => "\"" ++ name ++ "\""
  | .redirection _ _ => "redirection"

/-- The line that ends a text in the script. -/
structure Delimiter where
  /-- The number of the text. -/
  number : Nat
  t : Text
  /-- Whether the text is taken as it stands. -/
  isLiteral : Bool
  dropsTabs : Bool

/-- An alias that was put into a script. -/
structure ReplacedAlias where
  name : Text
  /-- How much of the script follows its text. -/
  following : Nat
  /-- Whether its text ends with a blank, after which the next word can be an alias. -/
  endsBlank : Bool

/-- What is left of a script, and where reading has come to. -/
structure Source where
  rest : Text
  line : Nat := 1
  /-- A token that is to be read once more. -/
  pushed : Option Token := none
  /-- The word that was read last. -/
  lastWord : Word := []
  /-- The texts that follow the line that is being read. -/
  awaited : List Delimiter := []
  /-- The texts by number, empty as long as they are awaited. -/
  documents : Array Word := #[]
  aliases : List (Text × Text) := []
  /-- The aliases that were put into the rest and are not yet read to their end. -/
  replaced : List ReplacedAlias := []

/-- What is wrong with a script. -/
inductive SyntaxFault where
  | unexpected (found : Token) (expected : Option Token)
  | openQuotes
  | openBrace
  | openArithmetic
  | openBackquote
  | loopVariable
  | functionName
  | tooDeep

/-- What is told of a fault. -/
def SyntaxFault.message : SyntaxFault → Text
  | .unexpected found none => (found.label ++ " unexpected").toList
  | .unexpected found (some expected) =>
    (found.label ++ " unexpected (expecting " ++ expected.label ++ ")").toList
  | .openQuotes => "Unterminated quoted string".toList
  | .openBrace => "Missing \x27\x7d\x27".toList
  | .openArithmetic => "Missing \x27))\x27".toList
  | .openBackquote => "EOF in backquote substitution".toList
  | .loopVariable => "Bad for loop variable".toList
  | .functionName => "Bad function name".toList
  | .tooDeep => "too deep".toList

/-- A step of reading. -/
abbrev Reader := EStateM SyntaxFault Source

namespace Reader

/-- A text without the joined line ends at its start, and their number. -/
def withoutJoins : Text → Nat → Text × Nat
  | '\\' :: '\n' :: t, n => withoutJoins t (n + 1)
  | t, n => (t, n)

/-- The next character. -/
def next? : Reader (Option Char) := do
  let s ← get
  match s.rest with
  | [] => pure none
  | c :: rest => do set { s with rest }; pure (some c)

/-- The next character after joined line ends. -/
def nextJoined? : Reader (Option Char) := do
  modify fun s =>
    let (rest, lines) := withoutJoins s.rest 0
    { s with rest, line := s.line + lines }
  next?

/-- Gives a character back. -/
def putBack : Option Char → Reader Unit
  | none => pure ()
  | some c => modify fun s => { s with rest := c :: s.rest }

/-- Counts a line end. -/
def countLine : Reader Unit :=
  modify fun s => { s with line := s.line + 1 }

/-- Whether the next character, after joined line ends, is `c`; it is taken if so. -/
def takes (c : Char) : Reader Bool := do
  let d ← nextJoined?
  if d == some c then pure true else do putBack d; pure false

/-- The characters of a class that come next. -/
def takeWhile (p : Char → Bool) : (steps : Nat) → Reader Text
  | 0 => pure []
  | steps + 1 => do
    let c ← nextJoined?
    if c.any p then pure (c.toList ++ (← takeWhile p steps)) else do putBack c; pure []

/-- A number of steps that is enough for all that is left. -/
def steps : Reader Nat := do
  pure ((← get).rest.length + 2)

/-- Whether the line that starts here is a delimiter, which is taken if so. -/
def takesDelimiter (d : Delimiter) : Reader Bool := do
  if !d.isLiteral then
    let c ← nextJoined?
    putBack c
  let s ← get
  let rest := if d.dropsTabs then s.rest.dropWhile (· == '\t') else s.rest
  match Text.dropPrefix? d.t rest with
  | some [] => do set { s with rest := [] }; countLine; pure true
  | some ('\n' :: rest) => do set { s with rest }; countLine; pure true
  | _ => do set { s with rest }; pure false

end Reader

end JarLens.Shell
