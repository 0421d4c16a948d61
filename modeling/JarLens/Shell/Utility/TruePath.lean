import JarLens.Shell.Utility.Targets

/-!
# Paths without links

The path that the files tell for what another path leads to, name by name: a dot stays, two go up,
and a link is replaced by where it leads. How much of the path has to be there can be chosen. A link
that is met again with the same names to come leads nowhere.
-/

namespace JarLens.Shell.Utility

/-- What has to be there on the way of a path. -/
inductive Presence where
  | all
  /-- All but what the last name leads to. -/
  | allButLast
  | nothing
  deriving DecidableEq

/-- How far a path was followed: the place so far, and the names to come. -/
structure TrueWay where
  place : Place
  names : List Text
  /-- How many links were met, and where, once they are many. -/
  links : Nat := 0
  met : List (Place × List Text) := []

/-- The number of links from which on it is asked whether they come again. -/
def harmlessLinks : Nat := 20

/-- The number of steps after which a path is taken for one that never ends. -/
def trueWaySteps : Nat := 5000

/-- Whether the names that come after one ask for a folder: nothing but dots and slashes stands
before the end, or before the first two dots. -/
def asksFolder : List Text → Bool
  | [] => false
  | name :: names =>
    name == ['.', '.'] ||
      (name.isEmpty || name == ['.']) && (names.isEmpty || asksFolder names)

/-- What is wrong with a name that is no link, as far as it has to be there. -/
def faultOfName (files : Files) (presence : Presence) (place : Place) (names : List Text) :
    Option PathFault :=
  let path := place.toText
  let found := if asksFolder names then files.find [] (path ++ ['/'])
    else match files.walk false [] path with
      | .ok ⟨_, some node⟩ => .ok node
      | .ok ⟨_, none⟩ => .error .missing
      | .error fault => .error fault
  match found with
  | .ok _ => none
  | .error fault =>
    let isLast := names.all List.isEmpty
    if presence == .nothing || presence == .allButLast && fault == .missing && isLast then none
    else some fault

/-- One step on the way, none at its end. -/
def TrueWay.next? (files : Files) (presence : Presence) (w : TrueWay) :
    Except PathFault (Option TrueWay) :=
  match w.names with
  | [] => .ok none
  | name :: names =>
    if name.isEmpty || name == ['.'] then .ok (some { w with names })
    else if name == ['.', '.'] then .ok (some { w with names, place := w.place.dropLast })
    else
      let place := w.place ++ [name]
      match files.walk false [] place.toText with
      | .ok ⟨_, some (.link target)⟩ =>
        let isMany := harmlessLinks ≤ w.links
        if isMany && w.met.contains (w.place, w.names) then
          if presence == .nothing then .ok (some { w with names, place }) else .error .linkLoop
        else
          .ok (some
            { place := if target.head? == some '/' then [] else w.place
              names := Text.splitOn '/' target ++ names
              links := w.links + 1
              met := if isMany then (w.place, w.names) :: w.met else w.met })
      | _ =>
        match faultOfName files presence place names with
        | some fault => .error fault
        | none => .ok (some { w with names, place })

/-- The place that a path leads to, which is told from a folder. -/
def truePlace (files : Files) (presence : Presence) (here : Place) (path : Text) :
    Except PathFault Place :=
  let isAbsolute := path.head? == some '/'
  if path.isEmpty || !isAbsolute && here.getLast? == some [] then .error .missing
  else go trueWaySteps { place := if isAbsolute then [] else here, names := Text.splitOn '/' path }
where
  /-- The place at the end of a way. -/
  go : (steps : Nat) → TrueWay → Except PathFault Place
    | 0, _ => .error .linkLoop
    | steps + 1, w =>
      match w.next? files presence with
      | .ok none => .ok w.place
      | .ok (some w) => go steps w
      | .error fault => .error fault

/-- What has to be there by the last of the options that say so. None without any: then only a link
itself is read. -/
def presenceOf (a : Arguments) : Option Presence :=
  match (a.options.filter fun (c, _) => "efm".toList.contains c).getLast? with
  | some ('e', _) => some .all
  | some ('f', _) => some .allButLast
  | some _ => some .nothing
  | none => none

/-- Prints where symbolic links lead. -/
def readlink : Utility :=
  let table : OptionTable :=
    ⟨"efmnqsvz", [("canonicalize", 'f'), ("canonicalize-existing", 'e'),
      ("canonicalize-missing", 'm'), ("no-newline", 'n'), ("quiet", 'q'), ("silent", 's'),
      ("verbose", 'v'), ("zero", 'z'), ("help", '\x00'), ("version", '\x00')], ""⟩
  ofTable table fun name a => do
    let isSingle := a.operands.length < 2
    let isVerbose :=
      ((a.options.filter fun (c, _) => "qsv".toList.contains c).getLast?).any (·.1 == 'v')
    if a.operands.isEmpty then refuseUse name "missing operand".toList
    else
      if a.has 'n' && !isSingle then
        let _ ← refuse name "ignoring --no-newline with multiple arguments".toList
      let final := if a.has 'n' && isSingle then [] else if a.has 'z' then ['\x00'] else ['\n']
      forEach (fun path => do
        let p ← get
        let found := match presenceOf a with
          | some presence => (truePlace p.files presence (start p) path).map Place.toText
          | none =>
            match p.files.walk false (start p) path with
            | .ok ⟨_, some (.link target)⟩ => .ok target
            | .ok ⟨_, some _⟩ => .error .invalid
            | .ok ⟨_, none⟩ => .error .missing
            | .error fault => .error fault
        match found with
        | .ok t => printBytes name (Text.encodeUtf8 (t ++ final))
        | .error fault =>
          if isVerbose then refuse name (nameShown path ++ ": ".toList ++ faultText fault)
          else pure 1) a.operands

end JarLens.Shell.Utility
