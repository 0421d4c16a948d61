import JarLens.Files.Edit
import JarLens.Proofs.Files.Following

/-!
# What changing one place does to the others

Putting something new at a place, and removing what lies there, leaves all places alone that are not
at or beneath it (`get?_put_of_not_prefix`, `get?_eraseFolder_of_not_prefix`). The lemmas are about
the tree of names first, whose numbers stay, then about what the numbers stand for.
-/

namespace JarLens

/-! ## The tree of names -/

namespace NameTree

variable {t new : NameTree} {place other rest : Place} {name : Text}

theorem lookup_map_held (held : List (Text × NameTree)) (f : Text → NameTree → NameTree)
    (name : Text) :
    (held.map fun (key, t) => (key, f key t)).lookup name = (held.lookup name).map (f name) := by
  induction held with
  | nil => rfl
  | cons entry held ih =>
    obtain ⟨key, t⟩ := entry
    rw [List.map_cons, List.lookup_cons, List.lookup_cons, ih]
    cases hkey : name == key with
    | true => rw [eq_of_beq hkey]; rfl
    | false => rfl

theorem lookup_filter_held (held : List (Text × NameTree)) (name key : Text) :
    (held.filter (·.1 != name)).lookup key = if key = name then none else held.lookup key := by
  induction held with
  | nil => simp
  | cons entry held ih =>
    obtain ⟨k, t⟩ := entry
    rw [List.filter_cons, List.lookup_cons]
    by_cases hk : k = name
    · subst hk
      rw [if_neg (by simp), ih]
      by_cases hkey : key = k
      · rw [if_pos hkey, if_pos hkey]
      · rw [if_neg hkey, if_neg hkey, beq_eq_false_iff_ne.2 hkey]
    · rw [if_pos (by simpa using hk), List.lookup_cons, ih]
      by_cases hkey : key = k
      · subst hkey
        simp [hk]
      · rw [beq_eq_false_iff_ne.2 hkey]

theorem at?_cons (k : Nat) (held : List (Text × NameTree)) (name : Text) (rest : Place) :
    (node k held).at? (name :: rest) = (held.lookup name).bind (·.at? rest) := by
  rw [at?, NameTree.held]

@[simp] theorem number_add (t : NameTree) (place : Place) (new : NameTree) :
    (t.add place new).number = t.number := by
  obtain ⟨k, held⟩ := t
  match place with
  | [] => rfl
  | [_] => rfl
  | _ :: _ :: _ => rfl

@[simp] theorem number_without (t : NameTree) (place : Place) :
    (t.without place).number = t.number := by
  obtain ⟨k, held⟩ := t
  match place with
  | [] => rfl
  | [_] => rfl
  | _ :: _ :: _ => rfl

/-- What is added beneath a place is added to the tree there. -/
theorem at?_add_append (t : NameTree) (place : Place) {rest : Place} (hrest : rest ≠ [])
    (new : NameTree) :
    (t.add (place ++ rest) new).at? place = (t.at? place).map (·.add rest new) := by
  induction place generalizing t with
  | nil => simp [at?]
  | cons name place ih =>
    obtain ⟨k, held⟩ := t
    obtain ⟨next, names, hnext⟩ := List.exists_cons_of_ne_nil (l := place ++ rest) (by simp [hrest])
    rw [List.cons_append, hnext, add, ← hnext, at?_cons, at?_cons]
    · rw [lookup_map_held held fun key t => if key = name then t.add (place ++ rest) new else t]
      cases held.lookup name with
      | none => rfl
      | some t => simpa using ih t
    · simp

/-- Names that do not lead through the place keep their numbers when something is added there. -/
theorem number_at?_add (h : ¬place <+: other) :
    ((t.add place new).at? other).map number = (t.at? other).map number := by
  induction place generalizing t other with
  | nil => exact absurd List.nil_prefix h
  | cons name place ih =>
    cases other with
    | nil => simp [at?]
    | cons next other =>
      obtain ⟨k, held⟩ := t
      by_cases hplace : place = []
      · subst hplace
        have hne : next ≠ name := by
          rintro rfl
          exact h (List.cons_prefix_cons.2 ⟨rfl, List.nil_prefix⟩)
        rw [add, at?_cons, at?_cons, List.lookup_append]
        simp [List.lookup_cons, beq_eq_false_iff_ne.2 hne]
      · rw [add, at?_cons, at?_cons,
          lookup_map_held held fun key t => if key = name then t.add place new else t]
        · cases held.lookup next with
          | none => rfl
          | some t =>
            simp only [Option.map_some, Option.bind_some]
            split
            · next heq =>
              subst heq
              exact ih fun hbefore => h (List.cons_prefix_cons.2 ⟨rfl, hbefore⟩)
            · rfl
        · exact hplace

/-- Names that do not lead through the place keep their numbers when it is removed. -/
theorem number_at?_without (h : ¬place <+: other) :
    ((t.without place).at? other).map number = (t.at? other).map number := by
  induction place generalizing t other with
  | nil => exact absurd List.nil_prefix h
  | cons name place ih =>
    cases other with
    | nil => simp [at?]
    | cons next other =>
      obtain ⟨k, held⟩ := t
      by_cases hplace : place = []
      · subst hplace
        have hne : next ≠ name := by
          rintro rfl
          exact h (List.cons_prefix_cons.2 ⟨rfl, List.nil_prefix⟩)
        rw [without, at?_cons, at?_cons, lookup_filter_held, if_neg hne]
      · rw [without, at?_cons, at?_cons,
          lookup_map_held held fun key t => if key = name then t.without place else t]
        · cases held.lookup next with
          | none => rfl
          | some t =>
            simp only [Option.map_some, Option.bind_some]
            split
            · next heq =>
              subst heq
              exact ih fun hbefore => h (List.cons_prefix_cons.2 ⟨rfl, hbefore⟩)
            · rfl
        · exact hplace

/-- Nothing lies at a place that was removed. -/
theorem at?_without_self (t : NameTree) (hne : place ≠ []) : (t.without place).at? place = none := by
  induction place generalizing t with
  | nil => exact absurd rfl hne
  | cons name place ih =>
    obtain ⟨k, held⟩ := t
    by_cases hplace : place = []
    · subst hplace
      rw [without, at?_cons, lookup_filter_held, if_pos rfl]
      rfl
    · rw [without, at?_cons,
        lookup_map_held held fun key t => if key = name then t.without place else t]
      · cases held.lookup name with
        | none => rfl
        | some t => simpa using ih t hplace
      · exact hplace

mutual

/-- The numbers of what lies here and beneath. -/
def numbers : NameTree → List Nat
  | node k held => k :: numbersHeld held

/-- The numbers in some trees. -/
def numbersHeld : List (Text × NameTree) → List Nat
  | [] => []
  | (_, t) :: rest => t.numbers ++ numbersHeld rest

end

theorem numbers_subset_of_lookup {held : List (Text × NameTree)} (h : held.lookup name = some t) :
    t.numbers ⊆ numbersHeld held := by
  induction held with
  | nil => cases h
  | cons entry held ih =>
    obtain ⟨key, u⟩ := entry
    rw [numbersHeld]
    rw [List.lookup_cons] at h
    split at h
    · cases h
      exact List.subset_append_left _ _
    · exact List.Subset.trans (ih h) (List.subset_append_right _ _)

theorem number_mem_of_at? {u : NameTree} (h : t.at? place = some u) : u.number ∈ t.numbers := by
  induction place generalizing t with
  | nil =>
    obtain rfl : t = u := Option.some.inj h
    obtain ⟨k, held⟩ := t
    rw [numbers]
    exact List.mem_cons_self
  | cons name place ih =>
    obtain ⟨k, held⟩ := t
    rw [at?_cons, Option.bind_eq_some_iff] at h
    obtain ⟨next, hlookup, hnext⟩ := h
    rw [numbers]
    exact List.mem_cons_of_mem k (numbers_subset_of_lookup hlookup (ih hnext))

end NameTree

/-! ## The files -/

namespace Files

variable {files : Files} {place other : Place} {node : Node}

/-- The numbers in the tree stand for something. -/
def IsKnown (files : Files) : Prop :=
  ∀ place number, files.number? place = some number → number < files.items.size

theorem isKnown_of_forall (h : ∀ number ∈ files.names.numbers, number < files.items.size) :
    files.IsKnown := by
  intro place number hnumber
  obtain ⟨t, hat, rfl⟩ := Option.map_eq_some_iff.1 hnumber
  exact h t.number (NameTree.number_mem_of_at? hat)

@[simp] theorem names_touch (files : Files) (place : Place) :
    (files.touch place).names = files.names := by
  unfold touch withChange
  split <;> rfl

/-- A new time does not change what lies somewhere. -/
@[simp] theorem node?_touch (files : Files) (place : Place) (number : Nat) :
    (files.touch place).node? number = files.node? number := by
  unfold touch withChange
  split
  · unfold node?
    rw [Array.getElem?_modify]
    split
    · cases files.items[number]? <;> rfl
    · rfl
  · rfl

@[simp] theorem size_touch (files : Files) (place : Place) :
    (files.touch place).items.size = files.items.size := by
  unfold touch withChange
  split
  · exact Array.size_modify
  · rfl

@[simp] theorem number?_touch (files : Files) (place other : Place) :
    (files.touch place).number? other = files.number? other := by
  rw [number?, number?, names_touch]

/-- What lies at a place is known from its number and the item of this number. -/
theorem get?_congr {files' : Files} (hnumber : files'.number? other = files.number? other)
    (hnode : ∀ number, files.number? other = some number → files'.node? number = files.node? number) :
    files'.get? other = files.get? other := by
  unfold get?
  rw [hnumber]
  cases hother : files.number? other with
  | none => rfl
  | some number => exact hnode number hother

/-! ### Something new -/

/-- The files with something new, before the moments of the change are set. -/
theorem put_eq_of_at? (h : files.names.at? place = none) (node : Node) :
    files.put place node =
      ({ files.touch place.dropLast with
          names := files.names.add place (.node files.items.size [])
          items := (files.touch place.dropLast).items.push { node } } : Files).touch place := by
  have hget : (files.get? place).isSome = false := by rw [get?_eq_none_of_at? h]; rfl
  have hnumber : (files.touch place.dropLast).number? place = none := by
    rw [number?_touch, number?, h]
    rfl
  rw [put, hget]
  simp only [Bool.false_eq_true, if_false, withNode, hnumber, names_touch, size_touch]

/-- Something new is added to the names under the next number. -/
theorem names_put_of_at? (h : files.names.at? place = none) (node : Node) :
    (files.put place node).names = files.names.add place (.node files.items.size []) := by
  rw [put_eq_of_at? h, names_touch]

theorem node?_put_of_at? (h : files.names.at? place = none) (node : Node) (number : Nat) :
    (files.put place node).node? number =
      if number = files.items.size then some node else files.node? number := by
  rw [put_eq_of_at? h, node?_touch]
  rw [node?, Array.getElem?_push, size_touch]
  split
  · rfl
  · exact node?_touch files place.dropLast number

theorem size_put_of_at? (h : files.names.at? place = none) (node : Node) :
    (files.put place node).items.size = files.items.size + 1 := by
  rw [put_eq_of_at? h, size_touch, Array.size_push, size_touch]

/-- Something new changes nothing outside of its place. -/
theorem get?_put_of_not_prefix (hknown : files.IsKnown) (h : files.names.at? place = none)
    (hother : ¬place <+: other) (node : Node) :
    (files.put place node).get? other = files.get? other := by
  refine get?_congr ?_ fun number hnumber => ?_
  · rw [number?, names_put_of_at? h]
    exact NameTree.number_at?_add hother
  · rw [node?_put_of_at? h, if_neg (Nat.ne_of_lt (hknown other number hnumber))]

/-- A place in a folder has what was put there, and holds nothing. -/
theorem at?_put_concat {folder : Place} {name : Text} {t : NameTree}
    (hfolder : files.names.at? folder = some t) (h : files.names.at? (folder ++ [name]) = none)
    (node : Node) :
    (files.put (folder ++ [name]) node).names.at? (folder ++ [name]) =
      some (.node files.items.size []) := by
  have hlookup : t.held.lookup name = none := by
    rwa [NameTree.at?_concat, hfolder] at h
  obtain ⟨k, held⟩ := t
  rw [names_put_of_at? h, NameTree.at?_concat, NameTree.at?_add_append _ _ (by simp), hfolder]
  have hheld : held.lookup name = none := hlookup
  simp [NameTree.add, NameTree.held, List.lookup_append, hheld]

/-- Known files stay known when something new is put into a folder. -/
theorem IsKnown.put_concat (hknown : files.IsKnown) {folder : Place} {name : Text} {t : NameTree}
    (hfolder : files.names.at? folder = some t) (h : files.names.at? (folder ++ [name]) = none)
    (node : Node) : (files.put (folder ++ [name]) node).IsKnown := by
  intro other number hnumber
  rw [size_put_of_at? h]
  by_cases hother : folder ++ [name] <+: other
  · -- What was put there has the next number, and holds nothing.
    obtain ⟨rest, rfl⟩ := hother
    rw [number?, NameTree.at?_append, at?_put_concat hfolder h] at hnumber
    cases rest with
    | nil =>
      obtain rfl : files.items.size = number := by
        simpa [NameTree.at?, NameTree.number] using hnumber
      exact Nat.lt_succ_self _
    | cons next rest =>
      simp [NameTree.at?, NameTree.held] at hnumber
  · have hold : files.number? other = some number := by
      rw [← hnumber, number?, number?, names_put_of_at? h]
      exact (NameTree.number_at?_add hother).symm
    exact Nat.lt_succ_of_lt (hknown other number hold)

/-! ### Removing -/

/-- Removing a name changes nothing outside of its place. -/
theorem get?_erase_of_not_prefix (hother : ¬place <+: other) :
    (files.erase place).get? other = files.get? other := by
  refine get?_congr ?_ fun number _ => node?_touch files place.dropLast number
  show (((files.touch place.dropLast).names.without place).at? other).map _ = _
  rw [names_touch]
  exact NameTree.number_at?_without hother

/-- Nothing is left beneath a name that is removed. -/
theorem get?_erase_append (hne : place ≠ []) (rest : Place) :
    (files.erase place).get? (place ++ rest) = none :=
  get?_beneath (NameTree.at?_without_self _ hne)

theorem get?_eraseFolder_of_not_prefix (hother : ¬place <+: other) :
    (files.eraseFolder place).get? other = files.get? other := by
  unfold eraseFolder
  split
  · split
    · refine get?_congr ?_ fun _ _ => rfl
      show (((files.names.without place).add place _).at? other).map _ = _
      rw [NameTree.number_at?_add hother]
      exact NameTree.number_at?_without hother
    · exact get?_erase_of_not_prefix hother
  · rfl

/-- Removing a folder leaves nothing of it. -/
def Clears (files : Files) (place : Place) : Prop :=
  ∀ rest, (files.eraseFolder place).get? (place ++ rest) = none

/-- A folder of which nothing is left can be cleared. -/
theorem clears_of_leftOf {t : NameTree} {mode : Nat} (hne : place ≠ [])
    (hget : files.get? place = some (.folder mode)) (ht : files.names.at? place = some t)
    (hleft : leftOf files (files.mayChange place.dropLast) t = none) : files.Clears place := by
  intro rest
  have herase : files.eraseFolder place = files.erase place := by
    unfold eraseFolder
    simp only [hget, ht, hleft]
  rw [herase]
  exact get?_erase_append hne rest

end Files

end JarLens
