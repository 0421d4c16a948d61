import JarLens.Shell.Reader

/-!
# Reading words

A word is read piece by piece. What a character means depends on the frame it stands in: quotes end
at a quote, an argument in braces at the closing brace, an expression at two brackets, a word at a
blank or an operator, and a text in the script at its delimiter. How commands inside of words are
read is a parameter here, since they hold words again.
-/

namespace JarLens.Shell

/-- What a run of pieces stands in. -/
inductive Frame where
  | word
  /-- The argument of a parameter in braces; it can stand in quotes itself. -/
  | braces (isQuoted : Bool)
  /-- Double quotes, which can stand in an argument in braces. -/
  | quotes (inBraces : Bool)
  /-- An expression, and the number of brackets open in it. -/
  | arithmetic (brackets : Nat)
  | document

/-- Whether a frame is like double quotes for what stands in it. -/
def Frame.isQuoted : Frame → Bool
  | .word => false
  | .braces isQuoted => isQuoted
  | _ => true

/-- The piece for text that stands for itself in a frame. -/
def Frame.text (frame : Frame) (t : Text) : Piece :=
  match frame with
  | .word | .braces false | .arithmetic _ => .plain t
  | _ => .guarded t

/-- What is wrong when a script ends in a frame. -/
def Frame.fault? (inDocument : Bool) : Frame → Option SyntaxFault
  | .word | .document => none
  | .braces false => some .openBrace
  | .braces true | .quotes _ => some (if inDocument then .openBrace else .openQuotes)
  | .arithmetic _ => some .openArithmetic

/-- Whether a character ends a word that it does not stand quoted in. -/
def endsWord (c : Char) : Bool :=
  isBlank c || c == '\n' || c == ';' || c == '&' || c == '|' || c == '<' || c == '>' || c == '(' ||
    c == ')'

/-- Whether a backslash in a frame that is like double quotes takes away the meaning of a
character, and does not stand for itself. -/
def Frame.escapes (frame : Frame) (c : Char) : Bool :=
  c == '\\' || c == '\x60' || c == '$' ||
    (c == '"' && match frame with
      | .document => false
      | _ => true) ||
    (c == '\x7d' && match frame with
      | .braces _ | .quotes true => true
      | _ => false)

/-- The parameters whose name is one character that is no letter. -/
def isSpecialParameter (c : Char) : Bool :=
  c.isDigit || c == '@' || c == '*' || c == '#' || c == '?' || c == '$' || c == '!' || c == '-'

/-- The change of a value by the operator that a character starts, and whether the argument is a
pattern. The character is `none` where a script ends. -/
def readChange : Option Char → Reader (Change × Bool × Bool)
  | some ':' => do
    match ← Reader.nextJoined? with
    | some '-' => pure (.orElse, true, false)
    | some '=' => pure (.orAssign, true, false)
    | some '?' => pure (.orFail, true, false)
    | some '+' => pure (.butIf, true, false)
    | some '\x7d' => pure (.same, true, false)
    | _ => pure (.unknown, false, false)
  | some '-' => pure (.orElse, false, false)
  | some '=' => pure (.orAssign, false, false)
  | some '?' => pure (.orFail, false, false)
  | some '+' => pure (.butIf, false, false)
  | some '#' => do pure (.withoutStart (← Reader.takes '#'), false, true)
  | some '%' => do pure (.withoutEnd (← Reader.takes '%'), false, true)
  | _ => pure (.unknown, false, false)

/-- A parameter in braces up to its argument. -/
structure ParameterHead where
  name : Text
  change : Change := .unknown
  emptyCounts : Bool := false
  isPattern : Bool := false
  /-- Whether the closing brace was read. -/
  isClosed : Bool := false

/-- The head of a parameter after its name. -/
def readHeadAfter (name : Text) (c : Option Char) : Reader ParameterHead := do
  if c == some '\x7d' then pure { name, change := .same, isClosed := true }
  else
    let (change, emptyCounts, isPattern) ← readChange c
    pure { name, change, emptyCounts, isPattern }

/-- The head of a parameter whose length is asked for. -/
def readLengthHead (name : Text) : Reader ParameterHead := do
  let c ← Reader.nextJoined?
  Reader.putBack c
  pure { name, change := if c == some '\x7d' then .length else .unknown }

/-- The name of letters or digits that comes next. -/
def readName (c : Char) : Reader Text := do
  Reader.putBack (some c)
  Reader.takeWhile (if c.isDigit then Char.isDigit else isNameChar) (← Reader.steps)

/-- The head of a parameter after the opening brace. -/
def readHead : Reader ParameterHead := do
  match ← Reader.nextJoined? with
  | none => pure { name := [] }
  | some c =>
    if isNameStart c || c.isDigit then
      let name ← readName c
      readHeadAfter name (← Reader.nextJoined?)
    else if c == '\x7d' then
      Reader.putBack (some c)
      pure { name := [] }
    else
      let d ← Reader.nextJoined?
      if c == '#' && d.any isNameChar then readLengthHead (← readName (d.getD '_'))
      else if c == '#' then
        let e ← Reader.nextJoined?
        Reader.putBack e
        if d == some '\x7d' || e != some '\x7d' then readHeadAfter [c] d
        else
          let change := if d.any isSpecialParameter then .length else .unknown
          pure { name := d.toList, change }
      else if isSpecialParameter c then readHeadAfter [c] d
      else do
        Reader.putBack d
        pure { name := [c] }

/-- Single quotes after the opening one. -/
def readSingleQuotes (fault : SyntaxFault) : Reader Piece := do
  let s ← get
  let inside := s.rest.takeWhile (· != '\x27')
  set { s with rest := s.rest.drop (inside.length + 1), line := s.line + inside.count '\n' }
  if s.rest.length ≤ inside.length then throw fault
  pure (.quoted [.guarded inside])

/-- The script between backquotes after the opening one. -/
def readBackquotes (isQuoted : Bool) : (steps : Nat) → (done : Text) → Reader Text
  | 0, _ => throw .tooDeep
  | steps + 1, done => do
    match ← Reader.nextJoined? with
    | none => throw .openBackquote
    | some '\x60' => pure done.reverse
    | some '\\' =>
      match ← Reader.next? with
      | none => throw .openBackquote
      | some c =>
        if c == '\\' || c == '\x60' || c == '$' || (isQuoted && c == '"') then
          readBackquotes isQuoted steps (c :: done)
        else readBackquotes isQuoted steps (c :: '\\' :: done)
    | some c =>
      if c == '\n' then Reader.countLine
      readBackquotes isQuoted steps (c :: done)

/-- The pieces in order, with neighbours of one kind joined. -/
def joinPieces (reversed : List Piece) : Word :=
  reversed.foldl (fun w piece => match piece, w with
    | .plain t, .plain u :: w => .plain (t ++ u) :: w
    | .guarded t, .guarded u :: w => .guarded (t ++ u) :: w
    | piece, w => piece :: w) []

/-- What reading a character leads to. -/
inductive Step where
  /-- A piece, and the frame after it. -/
  | more (piece : Piece) (frame : Frame)
  /-- The end of the frame, after a last piece if there is one. -/
  | last (piece : Option Piece)

section Words

variable (inner : (isOld : Bool) → Reader (Option Command)) (delimiter : Option Delimiter)

/-- The end of the script in a frame. -/
def readEnd (frame : Frame) (piece : Option Piece) : Reader Step :=
  match frame.fault? delimiter.isSome with
  | some fault => throw fault
  | none => pure (.last piece)

/-- A line end in a frame. -/
def readLineEnd (frame : Frame) : Reader Step := do
  Reader.countLine
  let piece := frame.text ['\n']
  match delimiter with
  | none => pure (.more piece frame)
  | some d =>
    if ← Reader.takesDelimiter d then readEnd delimiter frame piece
    else pure (.more piece frame)

/-- A backslash in a frame. -/
def readBackslash (frame : Frame) : Reader Step := do
  match ← Reader.next? with
  | none => pure (.more (.guarded ['\\']) frame)
  | some c =>
    let t := if frame.isQuoted && !frame.escapes c then ['\\', c] else [c]
    pure (.more (.guarded t) frame)

mutual

/-- The pieces up to the end of a frame, after those read before, the last one first. -/
def readPieces : (steps : Nat) → Frame → (done : List Piece) → Reader Word
  | 0, _, _ => throw .tooDeep
  | steps + 1, frame, done => do
    match ← readStep steps frame with
    | .more piece frame => readPieces steps frame (piece :: done)
    | .last piece => pure (joinPieces (piece.toList ++ done))

/-- The next piece in a frame. -/
def readStep : (steps : Nat) → Frame → Reader Step
  | 0, _ => throw .tooDeep
  | steps + 1, frame => do
    match ← Reader.nextJoined? with
    | none => readEnd delimiter frame none
    | some c =>
      match c, frame with
      | '\n', .word => do Reader.putBack (some c); pure (.last none)
      | '\n', _ => readLineEnd delimiter frame
      | '\\', _ => readBackslash frame
      | '$', _ => do pure (.more (← readValue steps frame) frame)
      | '\x60', _ => do
        let script ← readBackquotes frame.isQuoted (← Reader.steps) []
        let s ← get
        set { s with rest := script, line := 1, pushed := none, awaited := [] }
        let command ← inner true
        modify fun t => { s with documents := t.documents }
        pure (.more (.output command) frame)
      | '\x27', .word | '\x27', .braces false => do
        let fault := if delimiter.isSome then .openBrace else .openQuotes
        pure (.more (← readSingleQuotes fault) frame)
      | '"', .word => do pure (.more (.quoted (← readPieces steps (.quotes false) [])) frame)
      | '"', .braces _ => do pure (.more (.quoted (← readPieces steps (.quotes true) [])) frame)
      | '"', .quotes _ => pure (.last none)
      | '\x7d', .braces _ => pure (.last none)
      | '(', .arithmetic brackets => pure (.more (.plain [c]) (.arithmetic (brackets + 1)))
      | ')', .arithmetic (brackets + 1) => pure (.more (.plain [c]) (.arithmetic brackets))
      | ')', .arithmetic 0 => do
        if ← Reader.takes ')' then pure (.last none) else pure (.more (.plain [c]) frame)
      | _, .word =>
        if endsWord c then do Reader.putBack (some c); pure (.last none)
        else pure (.more (.plain [c]) frame)
      | _, _ => pure (.more (frame.text [c]) frame)

/-- What a dollar sign starts. -/
def readValue : (steps : Nat) → Frame → Reader Piece
  | 0, _ => throw .tooDeep
  | steps + 1, frame => do
    match ← Reader.nextJoined? with
    | some '(' =>
      if ← Reader.takes '(' then pure (.arithmetic (← readPieces steps (.arithmetic 0) []))
      else pure (.output (← inner false))
    | some '\x7b' =>
      let head ← readHead
      let argument ← if head.isClosed then pure []
        else readPieces steps (.braces (frame.isQuoted && !head.isPattern)) []
      pure (.parameter head.name head.change head.emptyCounts argument)
    | c =>
      if c.any isNameStart then pure (.parameter (← readName (c.getD '_')) .same false [])
      else if c.any isSpecialParameter then pure (.parameter c.toList .same false [])
      else do
        Reader.putBack c
        pure (frame.text ['$'])

end

/-- The word that comes next, up to an unquoted blank or operator. -/
def readWord : Reader Word := do
  readPieces inner none (2 * (← Reader.steps)) .word []

/-- The text in the script up to a delimiter. -/
def readDocument (d : Delimiter) : Reader Word := do
  if ← Reader.takesDelimiter d then pure []
  else if d.isLiteral then readLiteral d (← Reader.steps) []
  else readPieces inner (some d) (2 * (← Reader.steps)) .document []
where
  /-- The lines up to the delimiter as they stand, after the text so far in reverse. -/
  readLiteral (d : Delimiter) : (steps : Nat) → (done : Text) → Reader Word
    | 0, done => pure [.guarded done.reverse]
    | steps + 1, done => do
      match ← Reader.next? with
      | none => pure [.guarded done.reverse]
      | some '\n' => do
        Reader.countLine
        if ← Reader.takesDelimiter d then pure [.guarded (done.reverse ++ ['\n'])]
        else readLiteral d steps ('\n' :: done)
      | some c => readLiteral d steps (c :: done)

end Words

end JarLens.Shell
