import JarLens.Text.Number
import JarLens.Tool.Action

/-!
# Scratch folders

An action that needs room for files gets a folder of its own, with a name that nothing in the
scratch area has. The folder is removed when the action ends, whether it gives a result or fails.
What goes on while other things happen opens and closes its folder by itself.
-/

namespace JarLens

/-- The number in a scratch folder's name has this many digits. -/
def scratchDigits : Nat := 8

/-- The `k`-th name for a scratch folder of some kind. -/
def scratchName (kind : Text) (k : Nat) : Text :=
  let digits := Text.ofNat k
  "jar-viewer-".toList ++ kind ++
    '-' :: List.replicate (scratchDigits - digits.length) '0' ++ digits

/-- A name that is not taken. One of as many names as are taken, and one more, is free. -/
def freshScratchName (taken : List Text) (kind : Text) : Text :=
  (((List.range (taken.length + 1)).map (scratchName kind)).find? (!taken.contains ·)).getD
    (scratchName kind taken.length)

/-- The place of the next scratch folder. -/
def Machine.freshScratch (m : Machine) (kind : Text) : Place :=
  m.scratch ++ [freshScratchName (m.files.namesIn m.scratch) kind]

/-- The permission bits of a scratch folder. -/
def scratchMode : Nat := 0o700

/-- Makes a scratch folder, and gives its place. -/
def openScratch (kind : String) : Action Place := do
  let m ← Action.machine
  let place := m.freshScratch kind.toList
  Action.setFiles (m.files.put place (.folder scratchMode))
  pure place

/-- Removes a scratch folder. -/
def closeScratch (place : Place) : Action Unit := do
  Action.setFiles ((← Action.machine).files.eraseFolder place)

/-- Does `body` with a new scratch folder, and removes the folder whatever came of it. -/
def withScratch {α : Type} (kind : String) (body : Place → Action α) : Action α := do
  let place ← openScratch kind
  Action.andThenDo (body place) (closeScratch place)

end JarLens
