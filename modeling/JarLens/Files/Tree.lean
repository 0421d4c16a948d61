import JarLens.Text.Basic

/-!
# The tree of names

Names lead from folder to folder, and to what lies in folders. What a name leads to is known by a
number, so that names can come and go while it stays: several names can have one number, and a whole
folder can get another name. A place is the list of names on the way from the root.
-/

namespace JarLens

/-- A place in the file tree: the names from the root down. -/
abbrev Place := List Text

/-- The absolute path of a place. -/
def Place.toText (place : Place) : Text :=
  '/' :: Text.join ['/'] place

/-- The place that a name leads to from a folder. -/
def Place.next (here : Place) (name : Text) : Place :=
  if name = [] || name = ['.'] then here
  else if name = ['.', '.'] then here.dropLast
  else here ++ [name]

/-- The place that names lead to from a folder. -/
def Place.follow (here : Place) (names : List Text) : Place :=
  names.foldl Place.next here

/-- Something known by its number, with what it holds by name. -/
inductive NameTree where
  | node (number : Nat) (held : List (Text × NameTree))

namespace NameTree

/-- The number of what lies here. -/
def number : NameTree → Nat
  | node k _ => k

/-- What is held here, by name. -/
def held : NameTree → List (Text × NameTree)
  | node _ held => held

/-- What lies at a place seen from here. -/
def at? : NameTree → Place → Option NameTree
  | t, [] => some t
  | t, name :: rest => (t.held.lookup name).bind (·.at? rest)

/-- The tree with `new` at a place where nothing lies, if its folder is there. -/
def add : NameTree → Place → (new : NameTree) → NameTree
  | t, [], _ => t
  | node k held, [name], new => node k (held ++ [(name, new)])
  | node k held, name :: rest, new =>
    node k (held.map fun (other, t) => (other, if other = name then t.add rest new else t))

/-- The tree without what lies at a place. -/
def without : NameTree → Place → NameTree
  | t, [] => t
  | node k held, [name] => node k (held.filter (·.1 != name))
  | node k held, name :: rest =>
    node k (held.map fun (other, t) => (other, if other = name then t.without rest else t))

mutual

/-- How many places here have a number. -/
def count (number : Nat) : NameTree → Nat
  | node k held => (if k = number then 1 else 0) + countHeld number held

/-- How many places in some trees have a number. -/
def countHeld (number : Nat) : List (Text × NameTree) → Nat
  | [] => 0
  | (_, t) :: rest => t.count number + countHeld number rest

end

mutual

/-- The first place here that has a number. -/
def find? (number : Nat) : NameTree → Option Place
  | node k held => if k = number then some [] else findHeld? number held

/-- The first place in some trees that has a number. -/
def findHeld? (number : Nat) : List (Text × NameTree) → Option Place
  | [] => none
  | (name, t) :: rest =>
    match t.find? number with
    | some place => some (name :: place)
    | none => findHeld? number rest

end

end NameTree

end JarLens
