import JarLens.Machine.Basic

/-!
# Detecting projects

A place belongs to the project whose root is the nearest folder, going up from the place itself,
with a marker file of any kind. In one folder the kinds count in their order of priority.
-/

namespace JarLens

/-- A place and all places above it, the nearest first. -/
def Place.upward (place : Place) : List Place :=
  (List.range (place.length + 1)).map fun k => place.take (place.length - k)

/-- Whether anything that can be read lies at a path, which may be too long to be looked at, or lead
through a folder that cannot be looked into. -/
def isThere (files : Files) (path : Text) : Except PathTrouble Bool :=
  (files.has path).mapError fun fault => if fault = .denied then .denied path else .tooLong path

/-- The markers of a kind that lie in a folder. -/
def markersIn (files : Files) (folder : Place) (names : List Text) :
    Except PathTrouble (List Text) :=
  names.filterM fun name => isThere files (folder ++ [name]).toText

/-- The project whose root is a folder, of the first kind with a marker there. -/
def projectAt? (files : Files) (folder : Place) : Except PathTrouble (Option Detection) :=
  ProjectKind.markers.findSomeM? fun (kind, names) => do
    match ← markersIn files folder names with
    | [] => pure none
    | found => pure (some { kind, root := some folder.toText, markers := found })

/-- What is found where no project owns a place. -/
def Detection.native : Detection :=
  { kind := .native, root := none, markers := [] }

/-- The project that owns a place, going up from it. -/
def projectAbove (files : Files) (place : Place) : Except PathTrouble Detection := do
  pure ((← place.upward.findSomeM? (projectAt? files)).getD .native)

/-- The project that owns the place a path names; a file belongs to its folder. -/
def Machine.detect (m : Machine) (path : Text) : Except Failure Detection :=
  Except.mapError Failure.badPath do
    let place ← m.place path
    let isFile ← m.isFile place.toText
    projectAbove m.files (if isFile then place.dropLast else place)

end JarLens
