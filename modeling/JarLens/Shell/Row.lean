import JarLens.Shell.Command

/-!
# Words as rows

A word is expanded along a row of tokens, in which what belongs together is opened and closed by
tokens of its own. The commands inside of a word stand in a row apart, and each token for one takes
the next of them.

Where the argument of a parameter is not needed its tokens are passed over. A tilde there takes
everything with it up to the end of its path, whatever is opened in between; what was opened then
stays open to the tokens that follow, and what they close is closed too early. Commands taken with
it stay in their row.
-/

namespace JarLens.Shell

/-- A part of a word in the row of all its parts. -/
inductive WordToken where
  | plain (t : Text)
  | guarded (t : Text)
  /-- Where quotes open or close. -/
  | quote
  /-- A parameter, and whether it has an argument, which stands up to its end. -/
  | parameter (name : Text) (change : Change) (emptyCounts hasArgument : Bool)
  | endParameter
  | output
  | arithmetic
  | endArithmetic

/-- What is left of a word. -/
structure Row where
  tokens : List WordToken
  /-- The commands inside of the word that did not run yet. -/
  commands : List (Option Command)

mutual

/-- The tokens of pieces. -/
def tokensOf : List Piece → List WordToken
  | [] => []
  | piece :: rest => pieceTokens piece ++ tokensOf rest

/-- The tokens of a piece. A parameter that is taken as it is has no end of its own. -/
def pieceTokens : Piece → List WordToken
  | .plain t => [.plain t]
  | .guarded t => [.guarded t]
  | .quoted inside => .quote :: tokensOf inside ++ [.quote]
  | .parameter name .same false _ => [.parameter name .same false false]
  | .parameter name change emptyCounts argument =>
    .parameter name change emptyCounts (!argument.isEmpty) :: tokensOf argument ++ [.endParameter]
  | .output _ => [.output]
  | .arithmetic expression => .arithmetic :: tokensOf expression ++ [.endArithmetic]

end

mutual

/-- The commands inside of pieces. -/
def commandsOf : List Piece → List (Option Command)
  | [] => []
  | piece :: rest => pieceCommands piece ++ commandsOf rest

/-- The commands inside of a piece. -/
def pieceCommands : Piece → List (Option Command)
  | .plain _ | .guarded _ => []
  | .quoted inside => commandsOf inside
  | .parameter _ _ _ argument => commandsOf argument
  | .output command => [command]
  | .arithmetic expression => commandsOf expression

end

namespace Row

/-- The row of a word. -/
def ofWord (w : Word) : Row :=
  ⟨tokensOf w, commandsOf w⟩

/-- A bound for the steps along a row. -/
def bound (r : Row) : Nat :=
  r.tokens.foldl (fun n token => match token with
    | .plain t => n + t.length + 1
    | _ => n + 1) 1

/-- Whether a character ends the name after a tilde. -/
def endsHome (isAssigned : Bool) (c : Char) : Bool :=
  c == '/' || (isAssigned && c == ':')

/-- What is left after a tilde with everything that it takes along: it goes up to the end of its
path, or of the first parameter that ends. It takes nothing if something in between is quoted. -/
def afterTilde? (isAssigned : Bool) : List WordToken → Option (List WordToken)
  | [] => some []
  | .endParameter :: rest => some (.endParameter :: rest)
  | .guarded _ :: _ => none
  | .quote :: _ => none
  | .plain t :: rest =>
    match t.dropWhile fun c => !endsHome isAssigned c with
    | [] => afterTilde? isAssigned rest
    | left => some (.plain left :: rest)
  | _ :: rest => afterTilde? isAssigned rest

/-- Passes over plain text up to the first tilde that takes something along, and over that. A tilde
counts where `isStart` is set, and after a colon in an assignment. -/
def skipPlain (isAssigned : Bool) : (isStart : Bool) → Text → List WordToken → List WordToken
  | _, [], rest => rest
  | isStart, c :: t, rest =>
    let taken := if isStart && c == '~' then afterTilde? isAssigned (.plain t :: rest) else none
    taken.getD (skipPlain isAssigned (isAssigned && c == ':') t rest)

/-- Passes over what is not needed, up to where something ends. With `isStart` a tilde counts where
the row begins. -/
def skip : (steps : Nat) → (isAssigned isStart : Bool) → Row → Row
  | 0, _, _, r => r
  | steps + 1, isAssigned, isStart, r =>
    match r.tokens with
    | [] => r
    | .endParameter :: rest | .endArithmetic :: rest => { r with tokens := rest }
    | .plain t :: rest =>
      skip steps isAssigned false { r with tokens := skipPlain isAssigned isStart t rest }
    | .parameter _ change _ _ :: rest =>
      let r := { r with tokens := rest }
      let r := match change with
        | .same => r
        | .length => { r with tokens := rest.drop 1 }
        | .orElse | .butIf | .unknown => skip steps isAssigned true r
        | _ => skip steps false true r
      skip steps isAssigned false r
    | .arithmetic :: rest =>
      skip steps isAssigned false (skip steps false false { r with tokens := rest })
    | .output :: rest => skip steps isAssigned false ⟨rest, r.commands.drop 1⟩
    | _ :: rest => skip steps isAssigned false { r with tokens := rest }

end Row

end JarLens.Shell
