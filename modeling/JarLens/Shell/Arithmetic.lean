import JarLens.Shell.Variables
import JarLens.Shell.Opening

/-!
# Arithmetic in scripts

Expressions on numbers of 64 bits, which wrap around. `Expression.ofText` reads one, and `evaluate`
works it out; what is not needed for the value is left out, also an assignment. A text that is no
expression is still one up to where that shows: what stands before the flaw is worked out first.
-/

namespace JarLens.Shell

/-- What is done with two numbers. -/
inductive BinaryOperator where
  | multiply | divide | remainder | add | subtract | shiftLeft | shiftRight
  | less | lessEqual | greater | greaterEqual | equal | unequal
  | bitAnd | bitXor | bitOr
  deriving DecidableEq

/-- The operators by how they are written, longer ones first, with how tightly they bind. -/
def binaryOperators : List (Text × BinaryOperator × Nat) :=
  [("<<", .shiftLeft, 5), (">>", .shiftRight, 5), ("<=", .lessEqual, 4), (">=", .greaterEqual, 4),
    ("==", .equal, 3), ("!=", .unequal, 3), ("*", .multiply, 7), ("/", .divide, 7),
    ("%", .remainder, 7), ("+", .add, 6), ("-", .subtract, 6), ("<", .less, 4), (">", .greater, 4),
    ("&", .bitAnd, 2), ("^", .bitXor, 1), ("|", .bitOr, 0)].map fun (name, entry) =>
      (String.toList name, entry)

/-- How many levels of binding there are. -/
def bindingLevels : Nat := 8

/-- What is wrong with an expression. -/
inductive ExpressionFault where
  | primary
  | closing
  | colon
  | finish
  deriving DecidableEq

/-- What is told of a fault. -/
def ExpressionFault.message : ExpressionFault → Text
  | .primary => "expecting primary".toList
  | .closing => "expecting \x27)\x27".toList
  | .colon => "expecting \x27:\x27".toList
  | .finish => "expecting EOF".toList

/-- An expression. -/
inductive Expression where
  | number (n : Int64)
  | name (t : Text)
  | negative (e : Expression)
  | isZero (e : Expression)
  | complement (e : Expression)
  | binary (operator : BinaryOperator) (left right : Expression)
  | both (left right : Expression)
  | either (left right : Expression)
  | choice (condition yes no : Expression)
  /-- An assignment, of what an operator gives with the value before if there is one. -/
  | assign (name : Text) (operator : Option BinaryOperator) (e : Expression)
  /-- Something is wrong where an expression should be. -/
  | flaw (fault : ExpressionFault)
  /-- Something is wrong after an expression. -/
  | flawAfter (e : Expression) (fault : ExpressionFault)

/-- What is wrong with an expression first, in the order of the text. -/
def Expression.fault? : Expression → Option ExpressionFault
  | .number _ | .name _ => none
  | .negative e | .isZero e | .complement e | .assign _ _ e => e.fault?
  | .binary _ left right | .both left right | .either left right => left.fault? <|> right.fault?
  | .choice condition yes no => condition.fault? <|> yes.fault? <|> no.fault?
  | .flaw fault => some fault
  | .flawAfter e fault => e.fault? <|> some fault

/-- A token of an expression. -/
inductive ExpressionToken where
  | number (n : Int64)
  | name (t : Text)
  | sign (t : Text)
  deriving DecidableEq

/-- The signs of expressions, longer ones first. -/
def expressionSigns : List Text :=
  ["<<=", ">>=", "&&", "||", "==", "!=", "<=", ">=", "<<", ">>", "*=", "/=", "%=", "+=", "-=", "&=",
    "^=", "|=", "*", "/", "%", "+", "-", "<", ">", "&", "^", "|", "!", "~", "(", ")", "?", ":",
    "="].map String.toList

/-- The signs of assignments with an operator. -/
def assigningOperator? (t : Text) : Option BinaryOperator :=
  if t.getLast? == some '=' then
    let name := t.dropLast
    if name.any fun c => c == '=' || c == '!' then none
    else if name == ['<'] || name == ['>'] then none
    else (binaryOperators.lookup name).map (·.1)
  else none

/-- The tokens of an expression. What is no token stands as a sign that nothing knows. -/
def expressionTokens : (steps : Nat) → Text → List ExpressionToken
  | 0, _ => []
  | _, [] => []
  | steps + 1, c :: t =>
    if c == ' ' || c == '\t' || c == '\n' then expressionTokens steps t
    else if c.isDigit then
      match takeMagnitude? (c :: t) with
      | some (n, rest) =>
        .number (Int64.ofInt (min n greatestNumber)) :: expressionTokens steps rest
      | none => []
    else if isNameStart c then
      let name := leadingName (c :: t)
      .name name :: expressionTokens steps ((c :: t).drop name.length)
    else
      match expressionSigns.find? (Text.startsWith (c :: t)) with
      | some sign => .sign sign :: expressionTokens steps ((c :: t).drop sign.length)
      | none => [.sign [c]]

/-- A step of reading an expression, which works on the tokens that are left. -/
abbrev ExpressionReader := StateM (List ExpressionToken)

namespace ExpressionReader

/-- Takes a sign, if it comes next. -/
def takes (t : Text) : ExpressionReader Bool := do
  match ← get with
  | .sign u :: rest => if u == t then do set rest; pure true else pure false
  | _ => pure false

/-- The binary operator of a level that comes next. -/
def operator? (level : Nat) : ExpressionReader (Option BinaryOperator) := do
  match ← get with
  | .sign t :: rest =>
    match binaryOperators.lookup t with
    | some (operator, tightness) =>
      if tightness == level then do set rest; pure (some operator) else pure none
    | none => pure none
  | _ => pure none

/-- An assignment to a variable that comes next. -/
def assignment? : ExpressionReader (Option (Text × Option BinaryOperator)) := do
  match ← get with
  | .name name :: .sign t :: rest =>
    if t == ['='] then do set rest; pure (some (name, none))
    else
      match assigningOperator? t with
      | some operator => do set rest; pure (some (name, some operator))
      | none => pure none
  | _ => pure none

mutual

/-- An expression, which can be an assignment. -/
def whole : (steps : Nat) → ExpressionReader Expression
  | 0 => pure (.flaw .primary)
  | steps + 1 => do
    match ← assignment? with
    | some (name, operator) => do pure (.assign name operator (← whole steps))
    | none => choice steps

/-- A choice between two expressions, or less. -/
def choice : (steps : Nat) → ExpressionReader Expression
  | 0 => pure (.flaw .primary)
  | steps + 1 => do
    let condition ← either steps
    if ← takes ['?'] then
      let yes ← whole steps
      let no ← if ← takes [':'] then choice steps else pure (.flaw .colon)
      pure (.choice condition yes no)
    else pure condition

/-- Expressions of which one has to hold, or less. -/
def either : (steps : Nat) → ExpressionReader Expression
  | 0 => pure (.flaw .primary)
  | steps + 1 => do
    let left ← both steps
    if ← takes ['|', '|'] then pure (.either left (← either steps)) else pure left

/-- Expressions that all have to hold, or less. -/
def both : (steps : Nat) → ExpressionReader Expression
  | 0 => pure (.flaw .primary)
  | steps + 1 => do
    let left ← binary steps bindingLevels
    if ← takes ['&', '&'] then pure (.both left (← both steps)) else pure left

/-- An expression of operators that bind tighter than all but the last `levels` levels. -/
def binary : (steps levels : Nat) → ExpressionReader Expression
  | 0, _ => pure (.flaw .primary)
  | steps + 1, 0 => primary steps
  | steps + 1, levels + 1 => do
    binaryAfter steps levels (← binary steps levels)

/-- The operators of a level after a left side. -/
def binaryAfter : (steps levels : Nat) → Expression → ExpressionReader Expression
  | 0, _, _ => pure (.flaw .primary)
  | steps + 1, levels, left => do
    match ← operator? (bindingLevels - 1 - levels) with
    | some operator => do
      binaryAfter steps levels (.binary operator left (← binary steps levels))
    | none => pure left

/-- A number, a variable, or an expression in brackets, with signs in front. -/
def primary : (steps : Nat) → ExpressionReader Expression
  | 0 => pure (.flaw .primary)
  | steps + 1 => do
    match ← get with
    | .number n :: rest => do set rest; pure (.number n)
    | .name name :: rest => do set rest; pure (.name name)
    | .sign ['('] :: rest => do
      set rest
      let e ← whole steps
      if ← takes [')'] then pure e else pure (.flawAfter e .closing)
    | .sign ['+'] :: rest => do set rest; primary steps
    | .sign ['-'] :: rest => do set rest; pure (.negative (← primary steps))
    | .sign ['!'] :: rest => do set rest; pure (.isZero (← primary steps))
    | .sign ['~'] :: rest => do set rest; pure (.complement (← primary steps))
    | _ => pure (.flaw .primary)

end

end ExpressionReader

/-- Reads an expression. -/
def Expression.ofText (t : Text) : Expression :=
  let tokens := expressionTokens (t.length + 1) t
  match (ExpressionReader.whole (16 * (tokens.length + 1))).run tokens with
  | (e, []) => e
  | (e, _) => .flawAfter e .finish

/-- The number that stands for whether something holds. -/
def truth (holds : Bool) : Int64 :=
  if holds then 1 else 0

/-- What an operator makes of two numbers, none for a division by zero. A shift takes the number of
places modulo 64. -/
def BinaryOperator.apply (operator : BinaryOperator) (a b : Int64) : Option Int64 :=
  match operator with
  | .multiply => some (a * b)
  | .divide => if b = 0 then none else some (a / b)
  | .remainder => if b = 0 then none else some (a % b)
  | .add => some (a + b)
  | .subtract => some (a - b)
  | .shiftLeft => some (a <<< b)
  | .shiftRight => some (a >>> b)
  | .less => some (truth (a < b))
  | .lessEqual => some (truth (a ≤ b))
  | .greater => some (truth (b < a))
  | .greaterEqual => some (truth (b ≤ a))
  | .equal => some (truth (a == b))
  | .unequal => some (truth (a != b))
  | .bitAnd => some (a &&& b)
  | .bitXor => some (a ^^^ b)
  | .bitOr => some (a ||| b)

/-- The signal by which a process ends that divides what cannot be divided. -/
def arithmeticSignal : Nat := 8

/-- Fails because of an expression. -/
def refuseExpression {α : Type} (t message : Text) : Run α :=
  Run.fail ("arithmetic expression: ".toList ++ message ++ ": \"".toList ++ t ++ ['"'])

/-- The number that a variable holds, zero where it has no value or is empty. -/
def numberOf (name : Text) : Run Int64 := do
  let value := (← Run.value? name).getD []
  if value.all isNumberSpace then pure 0
  else
    match wholeInteger? takeMagnitude? value with
    | some n => pure (Int64.ofInt n)
    | none => Run.refuseNumber value

/-- What an operator makes of two numbers in the expression `t`. The least number has no quotient by
minus one: asking for it ends the process. -/
def applyIn (t : Text) (operator : BinaryOperator) (a b : Int64) : Run Int64 :=
  let divides := operator == .divide || operator == .remainder
  if divides && a == Int64.minValue && b == -1 then throw (.crashed arithmeticSignal)
  else
    match operator.apply a b with
    | some n => pure n
    | none => refuseExpression t "division by zero".toList

/-- Leaves an expression out that stands in the text `t`, in which nothing must be wrong. -/
def Expression.leaveOut (t : Text) (e : Expression) : Run Unit :=
  match e.fault? with
  | some fault => refuseExpression t fault.message
  | none => pure ()

/-- The value of an expression, which stands in the text `t`. -/
def Expression.evaluate (t : Text) : Expression → Run Int64
  | .number n => pure n
  | .name x => numberOf x
  | .negative e => do pure (-(← evaluate t e))
  | .isZero e => do pure (truth ((← evaluate t e) == 0))
  | .complement e => do pure (~~~(← evaluate t e))
  | .binary operator left right => do
    let a ← evaluate t left
    let b ← evaluate t right
    applyIn t operator a b
  | .both left right => do
    let a ← evaluate t left
    if a == 0 then do
      right.leaveOut t
      pure 0
    else
      let b ← evaluate t right
      pure (truth (b != 0))
  | .either left right => do
    let a ← evaluate t left
    if a != 0 then do
      right.leaveOut t
      pure 1
    else
      let b ← evaluate t right
      pure (truth (b != 0))
  | .choice condition yes no => do
    let c ← evaluate t condition
    if c != 0 then do
      let n ← evaluate t yes
      no.leaveOut t
      pure n
    else do
      yes.leaveOut t
      evaluate t no
  | .assign x operator e => do
    let b ← evaluate t e
    let n ← match operator with
      | some operator => do applyIn t operator (← numberOf x) b
      | none => pure b
    Run.assign x (Text.ofInt n.toInt)
    pure n
  | .flaw fault => refuseExpression t fault.message
  | .flawAfter e fault => do
    let _ ← evaluate t e
    refuseExpression t fault.message

/-- The value of the expression that a text is. -/
def evaluateText (t : Text) : Run Int64 :=
  (Expression.ofText t).evaluate t

end JarLens.Shell
