import JarLens.Shell.Word

/-!
# Reading commands

The grammar of scripts. `readComplete` reads one complete command: the commands up to the end of a
line, and further where a command is not closed there. Texts that redirections take from the script
are read at the line end that follows them. An alias is put in place of the first word of a command,
but not inside of its own text.
-/

namespace JarLens.Shell

/-- The words that the grammar reserves. -/
def reservedWords : List String :=
  ["!", "case", "do", "done", "elif", "else", "esac", "fi", "for", "if", "in", "then", "until",
    "while", "\x7b", "\x7d"]

/-- The commands that a function cannot take its name from. -/
def specialNames : List Text :=
  [".", ":", "break", "continue", "eval", "exec", "exit", "export", "local", "readonly", "return",
    "set", "shift", "times", "trap", "unset"].map String.toList

/-- Whether the name belongs to one of the special commands. -/
def isSpecialName (name : Text) : Bool :=
  specialNames.any (· == name)

/-- Whether a token ends a list of commands. -/
def Token.endsList : Token → Bool
  | .finish => true
  | .sign name =>
    [")", ";;", "do", "done", "elif", "else", "esac", "fi", "then", "\x7d"].any (· == name)
  | _ => false

/-- Whether a token is a sign with the name. -/
def Token.isSign (name : String) : Token → Bool
  | .sign found => found == name
  | _ => false

/-- What is looked for when a token is read. -/
structure TokenUse where
  /-- Whether line ends are left out. -/
  skipsLines : Bool := false
  /-- Whether a word can be reserved. -/
  isReserved : Bool := false
  /-- Whether a word can be an alias. -/
  isAlias : Bool := false

/-- At the start of a command. -/
def TokenUse.start : TokenUse :=
  { isReserved := true, isAlias := true }

/-- At the start of a command that can follow on a later line. -/
def TokenUse.later : TokenUse :=
  { skipsLines := true, isReserved := true, isAlias := true }

/-- How a list of commands ends. -/
inductive ListKind where
  /-- With the line. -/
  | line
  /-- At a word that closes it; there is at least one command. -/
  | body
  /-- At a word that closes it. -/
  | optional
  deriving DecidableEq

/-- The commands after those read before. -/
def after (done : Option Command) (command : Command) : Command :=
  match done with
  | none => command
  | some first => .sequence first command

/-- The command to be run without waiting for it. -/
def Command.inBackground (line : Nat) : Command → Command
  | .redirected line command redirections => .background line command redirections
  | command => .background line command []

/-- The command with redirections. Those of a command in a process of its own take the place of the
ones that it had. -/
def Command.withRedirections (line : Nat) (redirections : List Redirection) : Command → Command
  | .subshell start command _ => .subshell start command redirections
  | command => .redirected line command redirections

/-- Reads blanks and comments. -/
def skipBlanks : (steps : Nat) → Reader Unit
  | 0 => pure ()
  | steps + 1 => do
    match ← Reader.nextJoined? with
    | none => pure ()
    | some '#' => do
      modify fun s => { s with rest := s.rest.dropWhile (· != '\n') }
      skipBlanks steps
    | some c => if isBlank c then skipBlanks steps else Reader.putBack (some c)

/-- Reads a token once more. -/
def push (t : Token) : Reader Unit :=
  modify fun s => { s with pushed := some t }

/-- Fails because of a token. -/
def refuseToken {α : Type} (found : Token) (expected : Option Token) : Reader α :=
  throw (.unexpected found expected)

/-- The sign of a redirection after its first character. -/
def readRedirectionSign (isInput : Bool) : Reader RedirectionSign := do
  if isInput then
    if ← Reader.takes '<' then pure (.document (← Reader.takes '-'))
    else if ← Reader.takes '&' then pure .duplicate
    else if ← Reader.takes '>' then pure (.file .readWrite)
    else pure (.file .read)
  else if ← Reader.takes '>' then pure (.file .append)
  else if ← Reader.takes '|' then pure (.file .overwrite)
  else if ← Reader.takes '&' then pure .duplicate
  else pure (.file .write)

/-- The delimiter that comes next, with what stands in quotes taken as it is, and whether there
are any quotes. -/
def readDelimiter : (steps : Nat) → (inQuotes hasQuotes : Bool) → (done : Text) →
    Reader (Text × Bool)
  | 0, _, _, _ => throw .tooDeep
  | steps + 1, inQuotes, hasQuotes, done => do
    match ← Reader.nextJoined? with
    | none => if inQuotes then throw .openQuotes else pure (done.reverse, hasQuotes)
    | some '"' => readDelimiter steps (!inQuotes) true done
    | some '\\' => do
      let c ← Reader.next?
      let t := if inQuotes && !c.any (Frame.quotes false).escapes then '\\' :: c.toList
        else c.toList
      readDelimiter steps inQuotes true (t.reverse ++ done)
    | some c =>
      if c == '\x27' && !inQuotes then
        match ← readSingleQuotes .openQuotes with
        | .quoted [.guarded t] => readDelimiter steps inQuotes true (t.reverse ++ done)
        | _ => throw .openQuotes
      else if !inQuotes && endsWord c then do
        Reader.putBack (some c)
        pure (done.reverse, hasQuotes)
      else do
        if c == '\n' then Reader.countLine
        readDelimiter steps inQuotes hasQuotes (c :: done)

/-- Whether a text names a descriptor. -/
def isDescriptor : Text → Bool
  | [d] => d.isDigit
  | _ => false

section Grammar

variable (inner : (isOld : Bool) → Reader (Option Command))

/-- The texts that are due at a line end. -/
def readAwaited : Reader Unit := do
  let awaited := (← get).awaited
  modify fun s => { s with awaited := [] }
  awaited.forM fun d => do
    let document ← readDocument inner d
    modify fun s => { s with documents := s.documents.setIfInBounds d.number document }

/-- A word, or a redirection if the word is no more than its descriptor. -/
def readWordToken : Reader Token := do
  let w ← readWord inner
  let c ← Reader.nextJoined?
  let isInput := c == some '<'
  let descriptor := if !isInput && c != some '>' then none
    else match w with
      | [] => some (if isInput then 0 else 1)
      | [.plain [d]] => if d.isDigit then some (d.toNat - '0'.toNat) else none
      | _ => none
  match descriptor with
  | some descriptor => pure (.redirection descriptor (← readRedirectionSign isInput))
  | none => do
    Reader.putBack c
    modify fun s => { s with lastWord := w }
    pure (.word w)

/-- The next token as it stands. -/
def readPlainToken : Reader Token := do
  match (← get).pushed with
  | some t => do
    modify fun s => { s with pushed := none }
    pure t
  | none => do
    skipBlanks (← Reader.steps)
    match ← Reader.nextJoined? with
    | none => pure .finish
    | some '\n' => do Reader.countLine; pure .newline
    | some '&' => do pure (.sign (if ← Reader.takes '&' then "&&" else "&"))
    | some '|' => do pure (.sign (if ← Reader.takes '|' then "||" else "|"))
    | some ';' => do pure (.sign (if ← Reader.takes ';' then ";;" else ";"))
    | some '(' => pure (.sign "(")
    | some ')' => pure (.sign ")")
    | some c => do
      Reader.putBack (some c)
      readWordToken inner

/-- The text of an alias, unless it is being read. -/
def Source.alias? (s : Source) (name : Text) : Option Text :=
  if s.replaced.any fun r => r.name == name && r.following ≤ s.rest.length then none
  else s.aliases.lookup name

/-- The script with the text of an alias before the rest. -/
def Source.putAlias (s : Source) (name value : Text) : Source :=
  let following := s.rest.length
  let endsBlank := (value.getLast?).any isBlank
  { s with
    rest := value ++ s.rest
    replaced := { name, following, endsBlank } :: s.replaced.filter (·.following ≤ following) }

/-- Whether the end of an alias that ends with a blank lies behind reading, but lay before it when
`before` characters were left. -/
def Source.hasLeftBlank (s : Source) (before : Nat) : Bool :=
  s.replaced.any fun r => r.endsBlank && r.following < before && s.rest.length < r.following

/-- The next token. -/
def readToken (use : TokenUse) : (steps : Nat) → Reader Token
  | 0 => throw .tooDeep
  | steps + 1 => do
    let before ← get
    match ← readPlainToken inner with
    | .newline =>
      if use.skipsLines then do
        readAwaited inner
        readToken use steps
      else pure .newline
    | .word w =>
      match plainText? w with
      | none => pure (.word w)
      | some t =>
        match if use.isReserved then reservedWords.find? (·.toList == t) else none with
        | some name => pure (.sign name)
        | none => do
          let s ← get
          let followsBlank := before.pushed.isNone && s.hasLeftBlank before.rest.length
          match if use.isAlias || followsBlank then s.alias? t else none with
          | none => pure (.word w)
          | some value => do
            set (s.putAlias t value)
            readToken { use with isAlias := use.isAlias || followsBlank } steps
    | t => pure t

/-- The next token, with steps enough for it. -/
def readNext (use : TokenUse) : Reader Token := do
  readToken inner use (← Reader.steps)

/-- Reads a sign that has to come next. -/
def expectSign (use : TokenUse) (name : String) : Reader Unit := do
  let t ← readNext inner use
  if !t.isSign name then refuseToken t (some (.sign name))

/-- The word that has to come next. -/
def expectWord : Reader Word := do
  match ← readNext inner {} with
  | .word w => pure w
  | t => refuseToken t none

/-- The redirection that a sign starts. -/
def readRedirection (descriptor : Nat) : RedirectionSign → Reader Redirection
  | .file mode => do pure (.file descriptor mode (← expectWord inner))
  | .duplicate => do
    let w ← expectWord inner
    match w with
    | [.plain ['-']] => pure (.duplicate descriptor none)
    | [.plain [d]] =>
      if d.isDigit then pure (.duplicate descriptor (some (d.toNat - '0'.toNat)))
      else pure (.duplicateTold descriptor w)
    | _ => pure (.duplicateTold descriptor w)
  | .document dropsTabs => do
    skipBlanks (← Reader.steps)
    let c ← Reader.nextJoined?
    Reader.putBack c
    if c.all endsWord then refuseToken (← readNext inner {}) none
    let (t, isLiteral) ← readDelimiter (← Reader.steps) false false []
    let c ← Reader.nextJoined?
    Reader.putBack c
    if !isLiteral && isDescriptor t && c.any (fun c => c == '<' || c == '>') then
      refuseToken (.redirection 0 (.file .read)) none
    let s ← get
    let d : Delimiter := { number := s.documents.size, t, isLiteral, dropsTabs }
    set { s with awaited := s.awaited ++ [d], documents := s.documents.push [] }
    pure (.document descriptor d.number)

/-- The redirections after a command that is closed by a word. -/
def readRedirections : (steps : Nat) → (use : TokenUse) → Reader (List Redirection)
  | 0, _ => throw .tooDeep
  | steps + 1, use => do
    match ← readNext inner use with
    | .redirection descriptor sign => do
      let first ← readRedirection inner descriptor sign
      pure (first :: (← readRedirections steps {}))
    | t => do push t; pure []

/-- The words of a loop, after those read before, and the token after them. -/
def readLoopWords : (steps : Nat) → (done : List Word) → Reader (List Word × Token)
  | 0, _ => throw .tooDeep
  | steps + 1, done => do
    match ← readNext inner {} with
    | .word w => readLoopWords steps (w :: done)
    | t => pure (done.reverse, t)

/-- The pattern that a token stands for. One that is no word stands for the word before it. -/
def patternFrom : Token → Reader Word
  | .word w => pure w
  | .sign name =>
    if reservedWords.any (· == name) then pure [.plain name.toList] else do pure (← get).lastWord
  | _ => do pure (← get).lastWord

/-- The patterns of a case after the token that starts the first of them. -/
def readPatterns : (steps : Nat) → Token → Reader (List Word)
  | 0, _ => throw .tooDeep
  | steps + 1, t => do
    let w ← patternFrom t
    let t ← readNext inner {}
    if t.isSign "|" then pure (w :: (← readPatterns steps (← readNext inner {})))
    else if t.isSign ")" then pure [w]
    else refuseToken t (some (.sign ")"))

/-- The variable and the words of a loop over words. -/
def readEachHead : Reader (Text × List Word) := do
  let name ← match ← readNext inner {} with
    | .word w =>
      match plainText? w with
      | some name => if isName name then pure name else throw .loopVariable
      | none => throw .loopVariable
    | _ => throw .loopVariable
  let t ← readNext inner .later
  if t.isSign "in" then
    let (words, t) ← readLoopWords inner (← Reader.steps) []
    match t with
    | .newline => pure (name, words)
    | t => if t.isSign ";" then pure (name, words) else refuseToken t none
  else do
    if !t.isSign ";" then push t
    pure (name, [allParameters])

mutual

/-- The commands of a list, after those read before, and whether the script ends without one. -/
def readList (kind : ListKind) : (steps : Nat) → (isFirst : Bool) → (done : Option Command) →
    Reader (Option Command × Bool)
  | 0, _, _ => throw .tooDeep
  | steps + 1, isFirst, done => do
    match ← readNext inner { TokenUse.start with skipsLines := kind != .line } with
    | .newline => do
      readAwaited inner
      pure (done, false)
    | .finish => do
      readAwaited inner
      push .finish
      pure (done, kind == .line && done.isNone)
    | t => do
      push t
      if t.endsList && (kind == .optional || (kind == .body && !isFirst)) then pure (done, false)
      else
        let command ← readAndOr steps
        let line := (← get).line
        match ← readNext inner {} with
        | .newline => do
          push .newline
          readList kind steps false (after done command)
        | .finish => do
          push .finish
          readList kind steps false (after done command)
        | t =>
          if t.isSign "&" then
            readList kind steps false (after done (command.inBackground line))
          else if t.isSign ";" then readList kind steps false (after done command)
          else if kind == .line then refuseToken t none
          else do
            push t
            pure (some (after done command), false)

/-- The body of a command that a word closes. The script can end where it starts, and then lacks
that word too. -/
def readBody : (steps : Nat) → Reader Command
  | 0 => throw .tooDeep
  | steps + 1 => do
    let (command, _) ← readList .body steps true none
    pure (command.getD (.simple 0 [] [] []))

/-- Pipelines joined by what happens when one succeeds or fails. -/
def readAndOr : (steps : Nat) → Reader Command
  | 0 => throw .tooDeep
  | steps + 1 => do readAndOrAfter steps (← readPipeline steps {})

/-- The pipelines that are joined to a command. -/
def readAndOrAfter : (steps : Nat) → Command → Reader Command
  | 0, _ => throw .tooDeep
  | steps + 1, first => do
    let t ← readNext inner {}
    if t.isSign "&&" then
      readAndOrAfter steps (.both first (← readPipeline steps .later))
    else if t.isSign "||" then
      readAndOrAfter steps (.either first (← readPipeline steps .later))
    else do
      push t
      pure first

/-- A pipeline, which can be negated. -/
def readPipeline : (steps : Nat) → TokenUse → Reader Command
  | 0, _ => throw .tooDeep
  | steps + 1, use => do
    let t ← readNext inner use
    let isNegated := t.isSign "!"
    if !isNegated then push t
    let first ← readCommand steps (if isNegated then .start else {})
    let more ← readPipelineAfter steps
    let command := if more.isEmpty then first else .pipeline (first :: more)
    pure (if isNegated then .negated command else command)

/-- The further commands of a pipeline. -/
def readPipelineAfter : (steps : Nat) → Reader (List Command)
  | 0 => throw .tooDeep
  | steps + 1 => do
    let t ← readNext inner {}
    if t.isSign "|" then
      let command ← readCommand steps .later
      pure (command :: (← readPipelineAfter steps))
    else do
      push t
      pure []

/-- A command. -/
def readCommand : (steps : Nat) → TokenUse → Reader Command
  | 0, _ => throw .tooDeep
  | steps + 1, use => do
    let line := (← get).line
    let t ← readNext inner use
    match t with
    | .word _ | .redirection _ _ => do
      push t
      let line := (← get).line
      readSimple steps line true [] [] []
    | .sign "if" => do
      let command ← readChoice steps
      readRedirected line command
    | .sign "while" => do
      let command ← readLoop steps false
      readRedirected line command
    | .sign "until" => do
      let command ← readLoop steps true
      readRedirected line command
    | .sign "for" => do
      let (name, words) ← readEachHead inner
      expectSign inner .later "do"
      let body ← readBody steps
      expectSign inner {} "done"
      readRedirected line (.each line name words body)
    | .sign "case" => do
      let subject ← match ← readNext inner {} with
        | .word w => pure w
        | t => refuseToken t (some (.word []))
      expectSign inner .later "in"
      let arms ← readArms steps
      readRedirected line (.cases line subject arms)
    | .sign "(" => do
      let body ← readBody steps
      expectSign inner {} ")"
      pure (.subshell line body (← readRedirections inner (← Reader.steps) .start))
    | .sign "\x7b" => do
      let body ← readBody steps
      expectSign inner {} "\x7d"
      readRedirected line body
    | t => refuseToken t none
where
  /-- A command with the redirections that follow it. -/
  readRedirected (line : Nat) (command : Command) : Reader Command := do
    let redirections ← readRedirections inner (← Reader.steps) .start
    pure (if redirections.isEmpty then command else command.withRedirections line redirections)

/-- A choice after its first word. -/
def readChoice : (steps : Nat) → Reader Command
  | 0 => throw .tooDeep
  | steps + 1 => do
    let condition ← readBody steps
    expectSign inner {} "then"
    let yes ← readBody steps
    let t ← readNext inner {}
    if t.isSign "elif" then pure (.choice condition yes (some (← readChoice steps)))
    else if t.isSign "else" then
      let no ← readBody steps
      expectSign inner {} "fi"
      pure (.choice condition yes (some no))
    else if t.isSign "fi" then pure (.choice condition yes none)
    else refuseToken t (some (.sign "fi"))

/-- A loop after its first word. -/
def readLoop : (steps : Nat) → (isUntil : Bool) → Reader Command
  | 0, _ => throw .tooDeep
  | steps + 1, isUntil => do
    let condition ← readBody steps
    expectSign inner {} "do"
    let body ← readBody steps
    expectSign inner {} "done"
    pure (.loop isUntil condition body)

/-- The arms of a case. -/
def readArms : (steps : Nat) → Reader (List (List Word × Option Command))
  | 0 => throw .tooDeep
  | steps + 1 => do
    let t ← readNext inner { skipsLines := true, isReserved := true }
    if t.isSign "esac" then pure []
    else
      let t ← if t.isSign "(" then readNext inner {} else pure t
      let patterns ← readPatterns inner (← Reader.steps) t
      let (body, _) ← readList .optional steps true none
      let t ← readNext inner { skipsLines := true, isReserved := true }
      if t.isSign "esac" then pure [(patterns, body)]
      else if t.isSign ";;" then pure ((patterns, body) :: (← readArms steps))
      else refuseToken t (some (.sign ";;"))

/-- A simple command, after the parts of it that were read before, the last ones first. Words that
set variables are told apart up to the first other word. -/
def readSimple : (steps line : Nat) → (atStart : Bool) → (assignments words : List Word) →
    (redirections : List Redirection) → Reader Command
  | 0, _, _, _, _, _ => throw .tooDeep
  | steps + 1, line, atStart, assignments, words, redirections => do
    match ← readNext inner { isAlias := atStart } with
    | .word w =>
      if atStart && isAssignment w then
        readSimple steps line true (w :: assignments) words redirections
      else readSimple steps line false assignments (w :: words) redirections
    | .redirection descriptor sign => do
      let redirection ← readRedirection inner descriptor sign
      readSimple steps line atStart assignments words (redirection :: redirections)
    | t =>
      if t.isSign "(" && assignments.isEmpty && words.length == 1 && redirections.isEmpty then
        readFunction steps (words.head?.bind plainText?)
      else do
        push t
        pure (.simple line assignments.reverse words.reverse redirections.reverse)

/-- The definition of a function after the opening bracket. -/
def readFunction : (steps : Nat) → (name : Option Text) → Reader Command
  | 0, _ => throw .tooDeep
  | steps + 1, name => do
    expectSign inner {} ")"
    match name.filter fun name => isName name && !isSpecialName name with
    | none => throw .functionName
    | some name => do
      let line := (← get).line
      pure (.function line name (← readCommand steps .later))

end

end Grammar

/-- The command inside of a word, up to the bracket that closes it, or the whole of the rest if it
stood between backquotes. -/
def readInner : (steps : Nat) → (isOld : Bool) → Reader (Option Command)
  | 0, _ => throw .tooDeep
  | steps + 1, isOld => do
    let awaited := (← get).awaited
    modify fun s => { s with awaited := [] }
    let inner := readInner steps
    let limit := 8 * (← Reader.steps)
    let (command, _) ← readList inner .optional limit true none
    if !isOld then expectSign inner {} ")"
    modify fun s => { s with awaited }
    pure command

/-- The whole of the rest as a text in which values are put. -/
def readPlainDocument : Reader Word := do
  let limit := 8 * (← Reader.steps)
  readPieces (readInner limit) none limit .document []

/-- A complete command. -/
inductive Complete where
  /-- The script has ended. -/
  | finish
  /-- Nothing, on a line of its own, or the commands of a line. -/
  | commands (command : Option Command)

/-- The next complete command. -/
def readComplete : Reader Complete := do
  let limit := 8 * (← Reader.steps)
  modify fun s => { s with
    pushed := none, replaced := s.replaced.filter (·.following ≤ s.rest.length) }
  let (command, isFinish) ← readList (readInner limit) .line limit true none
  pure (if isFinish then .finish else .commands command)

end JarLens.Shell
