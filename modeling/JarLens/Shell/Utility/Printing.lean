import JarLens.Shell.Builtin.Folder
import JarLens.Shell.Condition
import JarLens.Shell.Printing
import JarLens.Shell.Utility.Copying
import JarLens.Shell.Utility.Formatting

/-!
# Utilities that print

Files, arguments and parts of paths as bytes on the normal output, and the few utilities that give
no more than a status.
-/

namespace JarLens.Shell.Utility

/-! ## Files -/

/-- How the lines of files are shown. -/
structure LineStyle where
  /-- Whether lines are numbered. -/
  numbers : Bool
  /-- Whether empty lines are left without a number. -/
  onlyFilled : Bool
  /-- Whether only one of several empty lines is shown. -/
  squeezes : Bool
  /-- Whether line ends are marked. -/
  ends : Bool
  tabs : Bool
  /-- Whether bytes that do not print are shown. -/
  unprintable : Bool

/-- The style that options tell. -/
def LineStyle.ofArguments (a : Arguments) : LineStyle where
  numbers := a.hasAny "nb"
  onlyFilled := a.has 'b'
  squeezes := a.has 's'
  ends := a.hasAny "eEA"
  tabs := a.hasAny "tTA"
  unprintable := a.hasAny "vetA"

/-- Where showing has come to. -/
structure LineShower where
  bytes : ByteArray := .empty
  /-- The number of the last line that has one. -/
  line : Nat := 0
  atStart : Bool := true
  /-- Whether the line before was empty. -/
  afterEmpty : Bool := false
  /-- Whether the last byte was a return that is still to be shown. -/
  hasReturn : Bool := false

/-- A byte below 128 as it is shown where it does not print. -/
def shownLow (b : UInt8) : Text :=
  if b < 32 then ['^', Char.ofNat (b.toNat + 64)]
  else if b = 127 then ['^', '?']
  else [Char.ofNat b.toNat]

/-- A byte in a style. -/
def shownByte (s : LineStyle) (b : UInt8) : Text :=
  if b = 9 then if s.tabs then ['^', 'I'] else ['\t']
  else if !s.unprintable then [Char.ofNat b.toNat]
  else if b < 128 then shownLow b
  else ['M', '-'] ++ shownLow (b - 128)

/-- The number at the start of a line. -/
def lineNumber (n : Nat) : Text :=
  let digits := Text.ofNat n
  List.replicate (6 - digits.length) ' ' ++ digits ++ ['\t']

namespace LineShower

/-- More text. -/
def print (l : LineShower) (t : Text) : LineShower :=
  { l with bytes := l.bytes ++ toBytes t }

/-- The number of a line that starts. -/
def number (s : LineStyle) (isFilled : Bool) (l : LineShower) : LineShower :=
  if l.atStart && s.numbers && (isFilled || !s.onlyFilled) then
    { l.print (lineNumber (l.line + 1)) with line := l.line + 1 }
  else l

/-- A return that was put off, as it is. -/
def release (l : LineShower) : LineShower :=
  if l.hasReturn then { l.print ['\x0d'] with hasReturn := false } else l

/-- One more byte. -/
def step (s : LineStyle) (l : LineShower) (b : UInt8) : LineShower :=
  if b = 10 then
    let isEmpty := l.atStart
    if isEmpty && l.afterEmpty && s.squeezes then l
    else
      let l := l.number s false
      let l := if l.hasReturn then { l.print ['^', 'M'] with hasReturn := false } else l
      { l.print (if s.ends then ['$', '\n'] else ['\n']) with
        atStart := true, afterEmpty := isEmpty }
  else
    let l := (l.release).number s true
    let l := { l with atStart := false, afterEmpty := false }
    if b = 13 && s.ends && !s.unprintable then { l with hasReturn := true }
    else l.print (shownByte s b)

end LineShower

/-- Whether there is more to read, from a position on, of the file that the normal output leads
to. -/
def feedsItself (p : Process) (number position : Nat) : Bool :=
  match (p.descriptors.lookup 1).bind (p.channels[·]?), p.files.node? number with
  | some (.file goal _ _), some (.file content _) => position < content.size && number == goal
  | _, _ => false

/-- What is read one part after another: the content of a file, or what comes at a descriptor. -/
inductive Reading where
  | content (bytes : ByteArray)
  | descriptor (n : Nat)

/-- What a path names to be read, a dash the input, or why it cannot be read. -/
def readingOf (path : Text) : Run (Except Text Reading) := do
  let p ← get
  let selfRead := "input file is output file".toList
  if path == ['-'] then
    match ← Run.channel? 0 with
    | some (_, .file number _ position) =>
      match p.files.node? number with
      | some (.file _ _) =>
        if feedsItself p number position then pure (.error selfRead) else pure (.ok (.descriptor 0))
      | _ => pure (.error (faultText .isFolder))
    | some _ => pure (.ok (.descriptor 0))
    | none => pure (.error "Bad file descriptor".toList)
  else
    match Run.deviceDescriptor? path with
    | some descriptor =>
      if (← Run.channel? descriptor).isSome then pure (.ok (.descriptor descriptor))
      else pure (.error (faultText .missing))
    | none =>
      match p.files.walk true (start p) path with
      | .ok ⟨place, some (.file content mode)⟩ =>
        pure (if !isReadable mode then .error (faultText .denied)
          else if (p.files.number? place).any (feedsItself p · 0) then .error selfRead
          else .ok (.content content))
      | .ok ⟨_, some (.device _)⟩ => pure (.ok (.content .empty))
      | .ok ⟨_, some node⟩ =>
        pure (.error (faultText (if node.isReadable then .isFolder else .denied)))
      | .ok ⟨_, none⟩ => pure (.error (faultText .missing))
      | .error fault => pure (.error (faultText fault))

/-- The next part of what is read, and what is left then. It is empty at the end; none if nothing
can be read. -/
def Reading.next : Reading → Run (Option (ByteArray × Reading))
  | .content bytes => pure (some (bytes, .content .empty))
  | .descriptor n => do pure ((← Run.readSome? n).map fun bytes => (bytes, .descriptor n))

/-- Shows what is read, part by part as it comes, as long as that can be printed. Otherwise the
status is an error. -/
def showParts (name : Text) (style : Option LineStyle) (l : LineShower) (reading : Reading) :
    Run (Except Nat (Nat × LineShower)) :=
  Run.iterate (fun (l, reading) => do
      match ← reading.next with
      | none => do
        pure (.done (.ok (← refuse name "-: Bad file descriptor".toList, l)))
      | some (bytes, rest) =>
        if bytes.isEmpty then pure (.done (.ok (0, l)))
        else
          let l := match style with
            | some style => bytes.foldl (LineShower.step style) { l with bytes := .empty }
            | none => { bytes }
          let status ← printBytes name l.bytes
          pure (if status != 0 then .done (.error status) else .again (l, rest)))
    Run.roundLimit (l, reading)

/-- Shows what paths name, one after another, as long as that can be printed. -/
def showAll (name : Text) (style : Option LineStyle) : LineShower → List Text → Run Nat
  | _, [] => pure 0
  | l, path :: paths => do
    match ← readingOf path with
    | .error complaint => do
      let _ ← refuse name (nameShown path ++ ": ".toList ++ complaint)
      let _ ← showAll name style l paths
      pure 1
    | .ok reading =>
      match ← showParts name style l reading with
      | .error status => pure status
      | .ok (status, l) => do
        let others ← showAll name style l paths
        pure (max status others)

/-- Prints files. -/
def cat : Utility :=
  let table : OptionTable :=
    ⟨"AbeEnstTuv", [("number-nonblank", 'b'), ("number", 'n'), ("squeeze-blank", 's'),
      ("show-nonprinting", 'v'), ("show-ends", 'E'), ("show-tabs", 'T'), ("show-all", 'A'),
      ("help", '\x00'), ("version", '\x00')], ""⟩
  ofTable table fun name a => do
    if (← Run.channel? 1).isNone then refuse name "standard output: Bad file descriptor".toList
    else
      let isPlain := !a.hasAny "AbeEnstTv"
      let paths := if a.operands.isEmpty then [['-']] else a.operands
      let status ← showAll name (if isPlain then none else some (.ofArguments a)) {} paths
      if paths.any (· == ['-']) && (← Run.channel? 0).isNone then
        refuse name "closing standard input: Bad file descriptor".toList
      else pure status

/-! ## Arguments -/

/-- The value of a hexadecimal escape after its letter, and the text after it. -/
def takeHexEscape? (t : Text) : Option (UInt8 × Text) :=
  let digits := (t.take 2).takeWhile fun c => (Text.digitValue? c).any (· < 16)
  (Text.number? 16 digits).map fun n => (n.toUInt8, t.drop digits.length)

/-- A text with escapes, after those before. The second part tells whether an escape ended all
printing. -/
def expandEchoed : (steps : Nat) → (done : ByteArray) → Text → ByteArray × Bool
  | 0, done, _ => (done, false)
  | _, done, [] => (done, false)
  | steps + 1, done, c :: t =>
    if c ≠ '\\' then expandEchoed steps (done.push c.toNat.toUInt8) t
    else
      let escape := match t with
        | 'x' :: rest => takeHexEscape? rest
        | '0' :: d :: rest =>
          if isOctal d then takeEscape? (d :: rest) else some (0, d :: rest)
        | _ => takeEscape? t
      match t, escape with
      | 'c' :: _, _ => (done, true)
      | _, some (b, rest) => expandEchoed steps (done.push b) rest
      | _, none => expandEchoed steps (done.push 92) t

/-- The options that arguments start with, and the words to be printed. -/
def takeEchoOptions : List Text → Text × List Text
  | [] => ([], [])
  | word :: words =>
    match word with
    | '-' :: letters =>
      if letters != [] && letters.all (fun c => c == 'n' || c == 'e' || c == 'E') then
        let (more, words) := takeEchoOptions words
        (letters ++ more, words)
      else ([], word :: words)
    | _ => ([], word :: words)

/-- Prints its arguments with blanks between. -/
def echo : Utility := fun name arguments => do
  let (letters, words) := takeEchoOptions arguments
  let t := Text.join [' '] words
  let hasEscapes := (letters.filter (· != 'n')).getLast? == some 'e'
  let (bytes, isFinal) := if hasEscapes then expandEchoed t.length .empty t else (toBytes t, false)
  printBytes name (if isFinal || letters.any (· == 'n') then bytes else bytes.push 10)

/-! ## Paths -/

/-- Prints the folder that the process is in. -/
def pwd : Utility := fun name arguments => do
  let table : OptionTable := ⟨"LP", [("logical", 'L'), ("physical", 'P')], ""⟩
  ofTable table (fun name a => do
    let p ← get
    if !a.operands.isEmpty then
      let _ ← refuse name "ignoring non-option arguments".toList
    let path := if (a.options.getLast?.map (·.1)) == some 'L' then p.folderPath
      else Builtin.truePath p
    if path.isEmpty then
      refuse name "couldn\x27t find directory entry in \x27..\x27 with matching i-node".toList
    else printBytes name (toBytes (path ++ ['\n']))) name arguments

/-- The last part of a path, without a suffix unless that is all of it. -/
def basePart (suffix path : Text) : Text :=
  let trimmed := Text.trimEnd (· == '/') path
  let part := if trimmed.isEmpty then path.take 1
    else (trimmed.reverse.takeWhile (· != '/')).reverse
  if Text.endsWith part suffix && part != suffix then part.take (part.length - suffix.length)
  else part

/-- Prints the last parts of paths. -/
def basename : Utility :=
  ofTable ⟨"as:z", [("multiple", 'a'), ("suffix", 's'), ("zero", 'z')], ""⟩ fun name a => do
    let ending := if a.has 'z' then ['\x00'] else ['\n']
    let showPart := fun (suffix path : Text) =>
      printBytes name (Text.encodeUtf8 (basePart suffix path ++ ending))
    match a.operands with
    | [] => refuseUse name "missing operand".toList
    | path :: rest =>
      if a.hasAny "as" then
        let suffix := ((a.options.find? (·.1 == 's')).map (·.2)).getD []
        forEach (showPart suffix) a.operands
      else
        match rest with
        | [] => showPart [] path
        | [suffix] => showPart suffix path
        | _ :: extra :: _ => refuseUse name ("extra operand ".toList ++ inMarks extra)

/-- A path without its last part. -/
def parentPart (path : Text) : Text :=
  let isSlash := fun c => c == '/'
  let trimmed := Text.trimEnd isSlash path
  if trimmed.isEmpty then (if path.isEmpty then ['.'] else ['/'])
  else
    let parent := Text.trimEnd (· != '/') trimmed
    if parent.isEmpty then ['.']
    else match Text.trimEnd isSlash parent with
      | [] => ['/']
      | t => t

/-- Prints paths without their last parts. -/
def dirname : Utility :=
  ofTable ⟨"z", [("zero", 'z')], ""⟩ fun name a => do
    if a.operands.isEmpty then refuseUse name "missing operand".toList
    else
      forEach (fun path => printBytes name (Text.encodeUtf8
        (parentPart path ++ if a.has 'z' then ['\x00'] else ['\n']))) a.operands

/-! ## Statuses -/

/-- The units of time by their letters, in seconds. -/
def timeUnits : List (Text × Nat) :=
  [([], 1), (['s'], 1), (['m'], 60), (['h'], 3600), (['d'], 86400)]

/-- The time in microseconds that stands for one without an end. -/
def endlessTime : Nat := 1000000000000000

/-- The microseconds that a text tells. -/
def interval? (t : Text) : Option Nat := do
  let l ← takeFraction? extended t
  let unit ← timeUnits.lookup l.rest
  match l.magnitude with
  | .finite m e =>
    if l.isNegative && m ≠ 0 then none
    else pure (min endlessTime ((Ratio.ofBinary (m * unit) e).times 6).floor)
  | .infinite => if l.isNegative then none else pure endlessTime
  | .noNumber => none

/-- Waits. -/
def sleep : Utility :=
  ofTable ⟨"", [], ""⟩ fun name a => do
    let complaint := fun (t : Text) => "invalid time interval ".toList ++ inMarks t
    match (a.operands.filter fun t => (interval? t).isNone).reverse with
    | [] =>
      if a.operands.isEmpty then refuseUse name "missing operand".toList
      else do
        Run.spend (a.operands.foldl (fun n t => n + (interval? t).getD 0) 0)
        pure 0
    | last :: others => do
      let _ ← forEach (fun t => refuse name (complaint t)) others.reverse
      refuseUse name (complaint last)

/-- The utility with a status, whatever its arguments are. -/
def withStatus (status : Nat) : Utility :=
  fun _ _ => pure status

/-- What is told of a condition. -/
def conditionComplaint : ConditionFault → Message
  | .number t => "invalid integer ".toList ++ inMarks (decoded t)
  | .operand t => "missing argument after ".toList ++ inMarks (decoded t)
  | .operator t => "extra argument ".toList ++ inMarks (decoded t)
  | .bracket => "\x27)\x27 expected".toList

/-- Tells whether a condition holds. -/
def test : Utility := fun name arguments => do
  let isBracket := name.getLast? == some '['
  if isBracket && arguments.getLast? != some [']'] then do
    let _ ← refuse name "missing \x27]\x27".toList
    pure 2
  else
    match conditionHolds (← get) (if isBracket then arguments.dropLast else arguments) with
    | .ok holds => pure (if holds then 0 else 1)
    | .error fault => do
      let _ ← refuse name (conditionComplaint fault)
      pure 2

end JarLens.Shell.Utility
