import JarLens.Shell.Variables
import JarLens.Shell.Opening

/-!
# Conditions

What the command `test` asks: about texts, numbers and files, joined by signs for "not", "and" and
"or" and by brackets. A text that could be an operator is one only where its neighbours leave room
for that, and where there are three texts the middle one decides first.
-/

namespace JarLens.Shell

/-- What is wrong with a condition. -/
inductive ConditionFault where
  | number (t : Text)
  | operand (operator : Text)
  | operator (t : Text)
  | bracket

/-- What is told of a fault. -/
def ConditionFault.message : ConditionFault → Text
  | .number t => "Illegal number: ".toList ++ t
  | .operand t => t ++ ": argument expected".toList
  | .operator [] => "unexpected operator".toList
  | .operator t => t ++ ": unexpected operator".toList
  | .bracket => "closing paren expected".toList

/-- What a text can be besides an operand. -/
inductive ConditionSign where
  | one
  | two
  | not
  | and
  | or
  | opening
  | closing
  deriving DecidableEq

/-- The operators with one operand. -/
def oneOperators : List Text :=
  ["-r", "-w", "-x", "-e", "-f", "-d", "-c", "-b", "-p", "-u", "-g", "-k", "-s", "-t", "-z", "-n",
    "-h", "-O", "-G", "-L", "-S"].map String.toList

/-- The operators with two operands. -/
def twoOperators : List Text :=
  ["=", "!=", "<", ">", "-eq", "-ne", "-ge", "-gt", "-le", "-lt", "-nt", "-ot", "-ef"].map
    String.toList

/-- What a text is besides an operand. -/
def conditionSign? (t : Text) : Option ConditionSign :=
  if oneOperators.any (· == t) then some .one
  else if twoOperators.any (· == t) then some .two
  else match String.ofList t with
    | "!" => some .not
    | "-a" => some .and
    | "-o" => some .or
    | "(" => some .opening
    | ")" => some .closing
    | _ => none

/-- What lies where a path leads, and the path's place. -/
def spot? (p : Process) (follow : Bool) (path : Text) : Option (Place × Node) :=
  match Run.walk p follow path with
  | .ok ⟨place, some node⟩ => some (place, node)
  | _ => none

/-- Whether some of the permission bits of a file or folder are set. -/
def hasBits (bits : Nat) : Node → Bool
  | .file _ mode | .folder mode => mode &&& bits != 0
  | _ => false

/-- The number that an operand is. -/
def operandNumber (t : Text) : Except ConditionFault Int :=
  match decimal? t with
  | some n => .ok n
  | none => .error (.number t)

/-- Whether a condition on one operand holds. No descriptor leads to a terminal. -/
def holdsOne (p : Process) (operator operand : Text) :
    Except ConditionFault Bool :=
  let node := (spot? p true operand).map (·.2)
  match String.ofList operator with
  | "-n" => .ok (operand != [])
  | "-z" => .ok (operand == [])
  | "-t" => (operandNumber operand).map fun _ => false
  | "-e" | "-O" | "-G" => .ok node.isSome
  | "-r" => .ok (node.any Node.isReadable)
  | "-w" => .ok (node.any fun
    | .file _ mode | .folder mode => isWritable mode
    | _ => true)
  | "-f" => .ok (node.any Node.isFile)
  | "-d" => .ok (node.any Node.isFolder)
  | "-s" => .ok (node.any fun
    | .file content _ => content.size != 0
    | node => node.isFolder)
  | "-x" => .ok (node.any fun
    | .file _ mode | .folder mode => isExecutable mode
    | _ => false)
  | "-c" => .ok (node.any fun
    | .device _ => true
    | _ => false)
  | "-h" | "-L" =>
    .ok ((spot? p false operand).any fun
      | (_, .link _) => true
      | _ => false)
  | "-u" => .ok (node.any (hasBits 0o4000))
  | "-g" => .ok (node.any (hasBits 0o2000))
  | "-k" => .ok (node.any (hasBits 0o1000))
  | _ => .ok false

/-- Whether two paths lead to the same file. -/
def isSameFile (p : Process) (left right : Text) : Bool :=
  match spot? p true left, spot? p true right with
  | some (a, _), some (b, _) => p.files.isSame a b
  | _, _ => false

/-- Whether what one path leads to was changed after what another one leads to. -/
def isNewer (p : Process) (left right : Text) : Bool :=
  match spot? p true left, spot? p true right with
  | some (a, _), some (b, _) => p.files.changedAt b < p.files.changedAt a
  | _, _ => false

/-- Whether a condition on two operands holds. -/
def holdsTwo (p : Process) (left operator right : Text) : Except ConditionFault Bool :=
  let numbers := fun (f : Int → Int → Bool) => do
    let a ← operandNumber left
    let b ← operandNumber right
    pure (f a b)
  match String.ofList operator with
  | "=" => .ok (left == right)
  | "!=" => .ok (left != right)
  | "<" => .ok (left != right && Text.le left right)
  | ">" => .ok (left != right && Text.le right left)
  | "-eq" => numbers (· == ·)
  | "-ne" => numbers (· != ·)
  | "-ge" => numbers (· ≥ ·)
  | "-gt" => numbers (· > ·)
  | "-le" => numbers (· ≤ ·)
  | "-lt" => numbers (· < ·)
  | "-ef" => .ok (isSameFile p left right)
  | "-nt" => .ok (isNewer p left right)
  | "-ot" => .ok (isNewer p right left)
  | _ => .ok false

/-- A step of reading a condition, which goes on through its texts. -/
abbrev ConditionReader := StateT Nat (Except ConditionFault)

section Condition

variable (p : Process) (texts : Array Text)

/-- Whether the text at a position, which could be an operator with one operand, is an operand. -/
def isOperand (i : Nat) : Bool :=
  match texts[i + 1]?, texts[i + 2]? with
  | none, _ => true
  | some _, none => false
  | some next, some _ => conditionSign? next == some .two

/-- The sign at a position, none if there is an operand or nothing. -/
def signAt (i : Nat) : Option ConditionSign :=
  (texts[i]?.bind conditionSign?).filter fun
    | .one => !isOperand texts i
    | .opening => texts[i + 1]?.isSome
    | _ => true

mutual

/-- A condition of which one part has to hold, from the current text on. -/
def eitherHolds : (steps : Nat) → (sign : Option ConditionSign) → ConditionReader Bool
  | 0, _ => pure false
  | steps + 1, sign => do
    let holds ← bothHold steps sign
    let i ← get
    if signAt texts (i + 1) == some .or then
      set (i + 2)
      let others ← eitherHolds steps (signAt texts (i + 2))
      pure (holds || others)
    else pure holds

/-- A condition of which all parts have to hold. -/
def bothHold : (steps : Nat) → (sign : Option ConditionSign) → ConditionReader Bool
  | 0, _ => pure false
  | steps + 1, sign => do
    let holds ← oneHolds steps sign
    let i ← get
    if signAt texts (i + 1) == some .and then
      set (i + 2)
      let others ← bothHold steps (signAt texts (i + 2))
      pure (holds && others)
    else pure holds

/-- A condition without connectives, which can be negated or stand in brackets. -/
def oneHolds : (steps : Nat) → (sign : Option ConditionSign) → ConditionReader Bool
  | 0, _ => pure false
  | steps + 1, sign => do
    let i ← get
    let next := texts[i + 1]?
    match sign, texts[i]? with
    | some .not, _ => do
      if next.isSome then set (i + 1)
      let holds ← if next.isSome then oneHolds steps (signAt texts (i + 1)) else pure false
      pure !holds
    | _, none => pure false
    | some .opening, _ => do
      set (i + 1)
      if signAt texts (i + 1) == some .closing then pure false
      else
        let holds ← eitherHolds steps (signAt texts (i + 1))
        let i ← get
        set (i + 1)
        if signAt texts (i + 1) == some .closing then pure holds else throw .bracket
    | some .one, some operator =>
      match next with
      | none => throw (.operand operator)
      | some operand => do
        set (i + 1)
        holdsOne p operator operand
    | _, some t =>
      if signAt texts (i + 1) == some .two then
        match next, texts[i + 2]? with
        | some operator, some right => do
          set (i + 2)
          holdsTwo p t operator right
        | operator, _ => throw (.operand (operator.getD []))
      else pure (t != [])

end

end Condition

/-- Whether the condition that texts make holds, from the sign of the first of them on. -/
def conditionFrom (p : Process) (texts : Array Text) (sign : Option ConditionSign) :
    Except ConditionFault Bool := do
  let (holds, i) ← (eitherHolds p texts (4 * texts.size + 8) sign).run 0
  match texts[i]?, texts[i + 1]? with
  | some t, some _ => throw (.operator t)
  | _, _ => pure holds

/-- Whether the condition that texts make holds, or fails to where it is negated. A negation in
front of two or three texts negates all of them, and two such negations are one. -/
def conditionHoldsFrom (p : Process) (isNegated : Bool) :
    (texts : List Text) → Except ConditionFault Bool
  | [] => pure isNegated
  | first :: rest =>
    let texts := (first :: rest).toArray
    let outcome := fun (holds : Except ConditionFault Bool) => holds.map (xor isNegated)
    let isMiddleOperator := texts.size == 3 && texts[1]?.any fun t => conditionSign? t == some .two
    if isMiddleOperator then outcome (conditionFrom p texts none)
    else if texts.size == 3 || texts.size == 4 then
      if first == ['('] && rest.getLast? == some [')'] then
        let inside := rest.dropLast.toArray
        outcome (conditionFrom p inside (signAt inside 0))
      else if first == ['!'] then conditionHoldsFrom p true rest
      else outcome (conditionFrom p texts (signAt texts 0))
    else outcome (conditionFrom p texts (signAt texts 0))

/-- Whether the condition that texts make holds. -/
def conditionHolds (p : Process) (texts : List Text) : Except ConditionFault Bool :=
  conditionHoldsFrom p false texts

end JarLens.Shell
