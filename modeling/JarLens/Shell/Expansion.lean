import JarLens.Shell.Arithmetic
import JarLens.Shell.Fields
import JarLens.Shell.PathPattern
import JarLens.Shell.Row

/-!
# Expanding words

What a word stands for when its command runs: a tilde for a home folder, parameters for their
values, commands for what they print, expressions for their numbers. What is not quoted is then
split into fields, and fields with pattern characters become the paths that match. How a command
inside of a word runs is a parameter here.
-/

namespace JarLens.Shell

/-- How a word is expanded. -/
structure Mode where
  /-- Whether it is split into fields afterwards. -/
  splits : Bool := false
  /-- Whether a tilde at its start stands for a home folder. -/
  hasTilde : Bool := false
  /-- Whether a tilde stands for a home folder after an equals sign and after colons. -/
  isAssigned : Bool := false
  /-- Whether it is the argument of a parameter, in which text is split too. -/
  isArgument : Bool := false

/-- A home folder by the name of its user, the own one for no name. -/
def home? (p : Process) (user : Text) : Option Text :=
  if user.isEmpty then (p.bindings.lookup "HOME".toList).bind (·.value)
  else (p.homes.lookup user).map encoded

/-- The home folder that stands for a tilde, and the text after it. The name of the user ends with
its part of the path; none if it goes on beyond the text. -/
def cutHome? (p : Process) (m : Mode) (isLast : Bool) (t : Text) : Option (Text × Text) :=
  let user := t.takeWhile fun c => c != '/' && !(m.isAssigned && c == ':')
  let rest := t.drop user.length
  if rest.isEmpty && !isLast then none else (home? p user).map fun home => (home, rest)

/-- The glyphs of plain text, those of home folders guarded. A tilde counts where `isStart` is set,
and a colon counts after the equals sign. -/
def tildeGlyphs (p : Process) (m : Mode) (isLast : Bool) :
    (steps : Nat) → (isStart hasEquals : Bool) → Text → List Glyph
  | 0, _, _, _ => []
  | _, _, _, [] => []
  | steps + 1, isStart, hasEquals, c :: t =>
    match if isStart && c == '~' then cutHome? p m isLast t else none with
    | some (home, rest) =>
      home.map .guarded ++ tildeGlyphs p m isLast steps false hasEquals rest
    | none =>
      let isSeparator := m.isAssigned && if hasEquals then c == ':' else c == '='
      .bare c :: tildeGlyphs p m isLast steps isSeparator (hasEquals || c == '=') t

/-- The parts of plain text. Guarded glyphs in it are not split. -/
def plainRegions (splitting : Splitting) (glyphs : List Glyph) : List Region :=
  glyphs.foldr (fun g regions =>
    let own := match g with
      | .bare _ => splitting
      | _ => .never
    match regions with
    | r :: rest => if r.splitting == own then ⟨own, g :: r.glyphs⟩ :: rest
      else ⟨own, [g]⟩ :: regions
    | [] => [⟨own, [g]⟩]) []

/-- The glyphs of an expanded word. -/
def allGlyphs (regions : List Region) : List Glyph :=
  regions.flatMap (·.glyphs)

/-- The text of an expanded word. -/
def regionText (regions : List Region) : Text :=
  textOf (allGlyphs regions)

/-- The separators of fields. -/
def separators (p : Process) : Text :=
  ((p.bindings.lookup "IFS".toList).bind (·.value)).getD defaultSeparators

/-- The glyphs of a text that comes from a value. -/
def valueGlyphs (isQuoted : Bool) (t : Text) : List Glyph :=
  t.map fun c => if isQuoted then .guarded c else .bare c

/-- The glyphs of all parameters. Where they are split they are kept apart, and else joined by the
first separator. -/
def joinedParameters (p : Process) (splits isQuoted isEach : Bool) : List Glyph :=
  let joint :=
    if splits && (isEach || !isQuoted) then
      if isQuoted || p.bindings.any (fun (name, v) => name == "IFS".toList && v.value.isSome) then
        [Glyph.bare parameterEnd]
      else [.bare ' ']
    else valueGlyphs isQuoted ((separators p).take 1)
  (p.parameters.map (valueGlyphs isQuoted)).intersperse joint |>.flatten

/-- The letters of options in the order in which they are told. -/
def optionLetters : List Char :=
  "pubaCEVvxsnmiIfe".toList

/-- The value of a parameter, as glyphs. -/
def parameterGlyphs (splits isQuoted : Bool) (name : Text) : Run (Option (List Glyph)) := do
  let p ← get
  let text := fun (t : Text) => some (valueGlyphs isQuoted t)
  match name with
  | ['@'] => pure (some (joinedParameters p splits isQuoted true))
  | ['*'] => pure (some (joinedParameters p splits isQuoted false))
  | ['#'] => pure (text (Text.ofNat p.parameters.length))
  | ['?'] => pure (text (Text.ofNat p.status))
  | ['$'] => pure (text (Text.ofNat p.scriptNumber))
  | ['!'] => pure (p.lastJob.bind fun n => text (Text.ofNat n))
  | ['-'] => pure (text (optionLetters.filter fun c => p.options.any (· == c)))
  | _ =>
    match Text.number? 10 name with
    | some 0 => pure (text p.zero)
    | some n => pure (p.parameters[n - 1]?.bind text)
    | none => pure ((← Run.value? name).bind text)

/-- Fails because a parameter has no value. -/
def refuseUnset {α : Type} (name message : Text) : Run α :=
  Run.fail (name ++ ": ".toList ++ message)

/-- What is told of a parameter without a value. -/
def unsetMessage : Text :=
  "parameter not set".toList

/-- A text without the line ends at its end. -/
def withoutLastLines (t : Text) : Text :=
  Text.trimEnd (· == '\n') t

/-- A step along the row of a word. -/
abbrev Expander := StateT Row Run

/-- What a parameter needs of the tokens of its argument. -/
structure ArgumentUse where
  /-- Expands them as a word in place of the value. -/
  asWord : Expander (List Region)
  /-- Expands them for their text alone. -/
  asText : Expander (List Region)
  /-- Passes over them. In an assignment that can be part of it or not. -/
  skipped : (isPart : Bool) → Expander Unit

/-- The value of a parameter after its change. -/
def changedValue (m : Mode) (isQuoted : Bool) (name : Text) (change : Change) (emptyCounts : Bool)
    (hasArgument : Bool) (argument : ArgumentUse) : Expander (List Region) := do
  let p ← getThe Process
  let found := fun (glyphs : List Glyph) =>
    let splitting : Splitting :=
      if !isQuoted then .atSeparators
      else if name == ['@'] && !p.parameters.isEmpty then .betweenParameters
      else .never
    [(⟨splitting, glyphs⟩ : Region)]
  let glyphs ← parameterGlyphs m.splits isQuoted name
  let value := glyphs.filter fun v => !(emptyCounts && v.isEmpty)
  let required : Expander Unit := do
    if glyphs.isNone && p.options.any (· == 'u') then refuseUnset name unsetMessage
  match change, value with
  | .unknown, _ => Run.fail "Bad substitution".toList
  | .same, some v => pure (found v)
  | .same, none => do required; pure []
  | .length, _ => do
    required
    modify fun r => { r with tokens := r.tokens.drop 1 }
    let plain := (← parameterGlyphs false false name).getD []
    pure (found (valueGlyphs isQuoted (Text.ofNat plain.length)))
  | .orElse, some v => do argument.skipped true; pure (found v)
  | .orElse, none => argument.asWord
  | .butIf, some _ => argument.asWord
  | .butIf, none => do argument.skipped true; pure (found [])
  | .orAssign, some v => do argument.skipped false; pure (found v)
  | .orAssign, none => do
    Run.assign name (regionText (← argument.asText))
    pure (found ((← parameterGlyphs m.splits isQuoted name).getD []))
  | .orFail, some v => do argument.skipped false; pure (found v)
  | .orFail, none => do
    let t := regionText (← argument.asText)
    refuseUnset name (if hasArgument then t
      else if emptyCounts then unsetMessage ++ " or null".toList else unsetMessage)
  | .withoutStart greedy, some v => do
    let pattern := patternOf false (allGlyphs (← argument.asText))
    pure (found (valueGlyphs isQuoted (dropMatchingStart greedy pattern (textOf v))))
  | .withoutEnd greedy, some v => do
    let pattern := patternOf false (allGlyphs (← argument.asText))
    pure (found (valueGlyphs isQuoted (dropMatchingEnd greedy pattern (textOf v))))
  | _, none => do required; argument.skipped false; pure []

/-- Moves on to the tokens after some. -/
def moveTo (rest : List WordToken) : Expander Unit :=
  modify fun r => { r with tokens := rest }

section Expansion

variable (output : Option Command → Run ByteArray)

/-- The parts that a row stands for, up to where something ends. What it stands in can be quoted,
and with `inner` the row itself is. -/
def expandRow : (steps : Nat) → (m : Mode) → (outer inner isFirst : Bool) → Expander (List Region)
  | 0, _, _, _, _ => pure []
  | steps + 1, m, outer, inner, isFirst => do
    let isQuoted := outer || inner
    let plainSplitting := fun (splits : Bool) =>
      if splits && !isQuoted then Splitting.atSeparators else .never
    let followedBy := fun (first : List Region) => do
      pure (first ++ (← expandRow steps m outer inner false))
    match (← get).tokens with
    | [] => pure []
    | .endParameter :: rest | .endArithmetic :: rest => do moveTo rest; pure []
    | .plain t :: rest => do
      moveTo rest
      let isLast := rest matches [] | .endParameter :: _
      let glyphs := tildeGlyphs (← getThe Process) m isLast (t.length + 1) (m.hasTilde && isFirst)
        (m.isArgument || !isFirst) t
      followedBy (plainRegions (plainSplitting m.isArgument) glyphs)
    | .guarded t :: rest => do moveTo rest; followedBy [⟨.never, t.map .guarded⟩]
    | .quote :: rest =>
      match rest, inner with
      | .parameter ['@'] .same false _ :: .quote :: rest, false => do
        moveTo rest
        followedBy (← changedValue m true ['@'] .same false false
          ⟨pure [], pure [], fun _ => pure ()⟩)
      | _, _ => do
        moveTo rest
        pure (⟨.never, [.mark]⟩ :: (← expandRow steps m outer (!inner) false))
    | .parameter name change emptyCounts hasArgument :: rest => do
      moveTo rest
      followedBy (← changedValue m isQuoted name change emptyCounts hasArgument
        { asWord := expandRow steps { m with hasTilde := true, isArgument := true } isQuoted false
            true
          asText := expandRow steps { hasTilde := true } false false true
          skipped := fun isPart => modify (Row.skip steps (m.isAssigned && isPart) true) })
    | .output :: rest => do
      let command := (← get).commands.head?.join
      set (⟨rest, (← get).commands.drop 1⟩ : Row)
      let t := (ofBytes (← output command)).filter (· != parameterEnd)
      followedBy [⟨plainSplitting true, valueGlyphs isQuoted (withoutLastLines t)⟩]
    | .arithmetic :: rest => do
      moveTo rest
      let t := regionText (← expandRow steps {} false false true)
      let n := Text.ofInt (← evaluateText t).toInt
      followedBy [⟨plainSplitting true, valueGlyphs isQuoted n⟩]

/-- The parts that a word stands for. -/
def expandWord (m : Mode) (isQuoted : Bool) (w : Word) : Run (List Region) := do
  let row := Row.ofWord w
  pure (← (expandRow output row.bound m isQuoted false (!isQuoted)).run row).1

/-- The fields that a word stands for. -/
def expandFields (w : Word) : Run (List Text) := do
  let regions ← expandWord output { splits := true, hasTilde := true } false w
  let p ← get
  pure ((splitFields (separators p) none regions).flatMap (expandPath p))

/-- The text that a word stands for, which is not split. -/
def expandText (w : Word) : Run Text := do
  pure (regionText (← expandWord output { hasTilde := true } false w))

/-- The text that a word stands for as an assignment. -/
def expandAssignment (w : Word) : Run Text := do
  pure (regionText (← expandWord output { isAssigned := true } false w))

/-- The text that a text in the script stands for. -/
def expandDocument (w : Word) : Run Text := do
  pure (regionText (← expandWord output {} true w))

/-- The pattern that a word stands for. -/
def expandPattern (w : Word) : Run Text := do
  pure (patternOf false (allGlyphs (← expandWord output { hasTilde := true } false w)))

/-- The fields that words stand for. With `assigns` a word that sets a variable is not split. -/
def expandWords (assigns : Bool) : List Word → Run (List Text)
  | [] => pure []
  | w :: ws => do
    let fields ← if assigns && isAssignment w then do pure [← expandAssignment output w]
      else expandFields output w
    pure (fields ++ (← expandWords assigns ws))

end Expansion

end JarLens.Shell
