import JarLens.Files.Walk
import JarLens.Machine.Basic
import JarLens.Proofs.Text.Cutting

/-!
# Where paths lead

`Place.follow` works out the dots of a path. Where no link is met, this is where the path leads
(`walk_eq_ok`): the way that `walkWith` keeps holds the folders of its place. A path whose dots never
lead above the folder that it starts from stays beneath this folder (`follow_of_staysInside`).
-/

namespace JarLens

open JarLens.Text

/-! ## Dots -/

/-- A name that is no dots. -/
structure IsOwnName (name : Text) : Prop where
  ne_nil : name ≠ []
  ne_dot : name ≠ ['.']
  ne_dots : name ≠ ['.', '.']

/-- Names of folders and files, as a place has them. -/
structure IsPlaceName (name : Text) : Prop extends IsOwnName name where
  slash_not_mem : '/' ∉ name

namespace Place

variable {here place : Place} {name : Text} {names : List Text}

@[simp] theorem follow_nil (here : Place) : here.follow [] = here := rfl

@[simp] theorem follow_cons (here : Place) (name : Text) (names : List Text) :
    here.follow (name :: names) = (here.next name).follow names := rfl

theorem follow_append (here : Place) (front back : List Text) :
    here.follow (front ++ back) = (here.follow front).follow back :=
  List.foldl_append

theorem next_of_isOwnName (h : IsOwnName name) (here : Place) : here.next name = here ++ [name] := by
  simp [next, h.ne_nil, h.ne_dot, h.ne_dots]

/-- Names that are no dots lead down, one after the other. -/
theorem follow_of_isOwnName (h : ∀ name ∈ names, IsOwnName name) (here : Place) :
    here.follow names = here ++ names := by
  induction names generalizing here with
  | nil => simp
  | cons name names ih =>
    rw [follow_cons, next_of_isOwnName (h name List.mem_cons_self),
      ih (fun other hother => h other (List.mem_cons_of_mem name hother)), List.append_assoc,
      List.singleton_append]

/-- Empty names and single dots lead nowhere. -/
theorem follow_filter (here : Place) (names : List Text) :
    here.follow (names.filter fun name => name != [] && name != ['.']) = here.follow names := by
  induction names generalizing here with
  | nil => rfl
  | cons name names ih =>
    rw [List.filter_cons]
    split
    · exact ih (here.next name)
    · next h =>
      have hnext : here.next name = here := by
        by_cases hnil : name = []
        · simp [next, hnil]
        · have hdot : name = ['.'] := by simpa [hnil] using h
          simp [next, hdot]
      rw [ih here, follow_cons, hnext]

end Place

/-! ## Paths of places -/

section Paths

variable {place : Place}

theorem Place.splitOn_toText (hne : place ≠ []) (h : ∀ name ∈ place, IsPlaceName name) :
    splitOn '/' place.toText = [] :: place := by
  rw [toText, show '/' :: join ['/'] place = [] ++ '/' :: join ['/'] place from rfl,
    splitOn_cons_piece (by simp), splitOn_join hne fun name hname => (h name hname).slash_not_mem]

theorem Place.toText_concat (hne : place ≠ []) (name : Text) :
    (place ++ [name]).toText = place.toText ++ '/' :: name := by
  rw [toText, toText, join_append hne (List.cons_ne_nil name [])]
  simp [join]

/-- A place's path is read as its names behind one slash. -/
theorem PathName.ofText_toText (hne : place ≠ []) (h : ∀ name ∈ place, IsPlaceName name) :
    PathName.ofText place.toText = ⟨1, place⟩ := by
  have hslashes : leadingSlashes place.toText = 1 := by
    obtain ⟨name, rest, rfl⟩ := List.exists_cons_of_ne_nil hne
    obtain ⟨⟨hname, -, -⟩, hslash⟩ := h name List.mem_cons_self
    obtain ⟨c, cs, rfl⟩ := List.exists_cons_of_ne_nil hname
    have hc : c ≠ '/' := by
      rintro rfl
      exact hslash List.mem_cons_self
    cases rest <;> simp [leadingSlashes, Place.toText, join, hc]
  have hfilter : place.filter (fun part => part != [] && part != ['.']) = place := by
    rw [List.filter_eq_self]
    intro name hname
    simp [(h name hname).ne_nil, (h name hname).ne_dot]
  rw [ofText, hslashes, Place.splitOn_toText hne h, List.filter_cons_of_neg (by simp), hfilter]

theorem PathName.slashes_ofText {t : Text} (h : t.head? ≠ some '/') : (ofText t).slashes = 0 := by
  cases t with
  | nil => rfl
  | cons c t =>
    have hc : c ≠ '/' := by simpa using h
    simp [ofText, leadingSlashes, hc]

/-- The pieces of a path that goes on from a place. -/
theorem splitOn_toText_append {t : Text} (hne : place ≠ []) (h : ∀ name ∈ place, IsPlaceName name)
    (ht : t.head? ≠ some '/') :
    splitOn '/' (PathName.ofText place.toText ++ PathName.ofText t).toText =
      [] :: place ++ (PathName.ofText t).parts := by
  have hrelative : (PathName.ofText t).isAbsolute = false := by
    simp [PathName.isAbsolute, PathName.slashes_ofText ht]
  have happend : PathName.ofText place.toText ++ PathName.ofText t =
      ⟨1, place ++ (PathName.ofText t).parts⟩ := by
    show PathName.append _ _ = _
    rw [PathName.append, hrelative, PathName.ofText_toText hne h]
    rfl
  have hslash : ∀ name ∈ place ++ (PathName.ofText t).parts, '/' ∉ name := by
    intro name hname hmem
    rcases List.mem_append.1 hname with hname | hname
    · exact (h name hname).slash_not_mem hmem
    · have hpiece := not_sep_of_mem_splitBy (List.mem_filter.1 hname).1 '/' hmem
      cases hpiece
  rw [happend]
  show splitOn '/' ([] ++ '/' :: join ['/'] (place ++ (PathName.ofText t).parts)) = _
  rw [splitOn_cons_piece (by simp), splitOn_join (by simp [hne]) hslash, List.cons_append]

end Paths

/-! ## Staying inside a folder -/

/-- Whether names that start from a folder as many levels beneath another one never lead above that
one. -/
def staysInside : (depth : Nat) → List Text → Bool
  | _, [] => true
  | depth, name :: names =>
    if name = [] || name = ['.'] then staysInside depth names
    else if name = ['.', '.'] then depth != 0 && staysInside (depth - 1) names
    else staysInside (depth + 1) names

section Inside

variable {here : Place} {name : Text} {names : List Text}

theorem staysInside_of_append {depth : Nat} {front back : List Text}
    (h : staysInside depth (front ++ back) = true) : staysInside depth front = true := by
  induction front generalizing depth with
  | nil => rfl
  | cons name front ih =>
    rw [List.cons_append, staysInside] at h
    rw [staysInside]
    split
    · next hstays => exact ih (by simpa [hstays] using h)
    · next hstays =>
      rw [if_neg hstays] at h
      split
      · next hup =>
        rw [if_pos hup, Bool.and_eq_true] at h
        rw [h.1, ih h.2]
        rfl
      · next hup => exact ih (by simpa [hup] using h)

/-- A last name leads no further out than those before it. -/
theorem staysInside_append_own {depth : Nat} {front : List Text} (h : IsOwnName name) :
    staysInside depth (front ++ [name]) = staysInside depth front := by
  induction front generalizing depth with
  | nil => simp [staysInside, h.ne_nil, h.ne_dot, h.ne_dots]
  | cons other front ih => simp only [List.cons_append, staysInside, ih]

theorem staysInside_filter (depth : Nat) (names : List Text) :
    staysInside depth (names.filter fun name => name != [] && name != ['.']) =
      staysInside depth names := by
  induction names generalizing depth with
  | nil => rfl
  | cons name names ih =>
    rw [List.filter_cons]
    split
    · simp only [staysInside, ih]
    · next h =>
      have hstays : (name = [] || name = ['.']) = true := by
        by_cases hnil : name = []
        · simp [hnil]
        · simpa [hnil] using h
      rw [ih, staysInside, if_pos hstays]

/-- Names that stay inside a folder lead to a place in it. -/
theorem follow_of_staysInside (here inside : Place) (h : staysInside inside.length names = true) :
    ∃ inside', Place.follow (here ++ inside) names = here ++ inside' := by
  induction names generalizing inside with
  | nil => exact ⟨inside, rfl⟩
  | cons name names ih =>
    rw [staysInside] at h
    rw [Place.follow_cons, Place.next]
    split
    · next hstays =>
      rw [if_pos hstays] at h
      exact ih inside h
    · next hstays =>
      rw [if_neg hstays] at h
      split
      · next hup =>
        rw [if_pos hup, Bool.and_eq_true] at h
        have hne : inside ≠ [] := by
          rintro rfl
          simp at h
        rw [List.dropLast_append_of_ne_nil hne]
        exact ih inside.dropLast (by rw [List.length_dropLast]; exact h.2)
      · next hup =>
        rw [if_neg hup] at h
        rw [List.append_assoc]
        exact ih (inside ++ [name]) (by rw [List.length_append]; exact h)

/-- Outside of a folder no names lead into it without its own name. -/
theorem not_prefix_follow {folder : Place} (hlast : ∀ last ∈ folder.getLast?, last ∉ names)
    (h : ¬folder <+: here) : ¬folder <+: here.follow names := by
  induction names generalizing here with
  | nil => exact h
  | cons name names ih =>
    rw [Place.follow_cons]
    refine ih (fun last hmem hin => hlast last hmem (List.mem_cons_of_mem name hin)) fun hnext => h ?_
    rw [Place.next] at hnext
    split at hnext
    · exact hnext
    · split at hnext
      · exact hnext.trans (List.dropLast_prefix here)
      · rcases List.prefix_concat_iff.1 hnext with heq | hbefore
        · have hmem : name ∈ folder.getLast? := by rw [heq, List.getLast?_concat]; rfl
          exact absurd List.mem_cons_self (hlast name hmem)
        · exact hbefore

/-- Names that do not stay inside a folder lead out of it for good, unless they hold its own
name. -/
theorem not_prefix_of_not_staysInside {folder : Place} (hne : folder ≠ [])
    (hlast : ∀ last ∈ folder.getLast?, last ∉ names) (inside : Place)
    (h : staysInside inside.length names = false) :
    ¬folder <+: Place.follow (folder ++ inside) names := by
  induction names generalizing inside with
  | nil => cases h
  | cons name names ih =>
    have hlast' : ∀ last ∈ folder.getLast?, last ∉ names :=
      fun last hmem hin => hlast last hmem (List.mem_cons_of_mem name hin)
    rw [staysInside] at h
    rw [Place.follow_cons, Place.next]
    split
    · next hstays =>
      rw [if_pos hstays] at h
      exact ih hlast' inside h
    · next hstays =>
      rw [if_neg hstays] at h
      split
      · next hup =>
        rw [if_pos hup] at h
        by_cases hinside : inside = []
        · -- This step leads out of the folder, and no other one leads back.
          subst hinside
          rw [List.append_nil]
          refine not_prefix_follow hlast' fun hbefore => ?_
          have hlength := hbefore.length_le
          rw [List.length_dropLast] at hlength
          have hpos := List.length_pos_iff.2 hne
          omega
        · have hlength : inside.length ≠ 0 := fun hzero => hinside (List.length_eq_zero_iff.1 hzero)
          rw [List.dropLast_append_of_ne_nil hinside]
          exact ih hlast' inside.dropLast (by rw [List.length_dropLast]; simpa [hlength] using h)
      · next hup =>
        rw [if_neg hup] at h
        rw [List.append_assoc]
        exact ih hlast' (inside ++ [name]) (by rw [List.length_append]; exact h)

end Inside

/-! ## The tree of names -/

theorem NameTree.at?_append (t : NameTree) (place rest : Place) :
    t.at? (place ++ rest) = (t.at? place).bind (·.at? rest) := by
  induction place generalizing t with
  | nil => simp [NameTree.at?]
  | cons name place ih =>
    rw [List.cons_append, NameTree.at?, NameTree.at?]
    cases t.held.lookup name with
    | none => rfl
    | some next => exact ih next

theorem NameTree.at?_concat (t : NameTree) (place : Place) (name : Text) :
    t.at? (place ++ [name]) = (t.at? place).bind (·.held.lookup name) := by
  rw [NameTree.at?_append]
  congr 1
  funext next
  rw [NameTree.at?]
  cases next.held.lookup name <;> rfl

namespace Files

variable {files : Files}

theorem get?_eq (files : Files) (place : Place) :
    files.get? place = (files.names.at? place).bind fun t => files.node? t.number := by
  rw [get?, number?]
  cases files.names.at? place <;> rfl

theorem get?_eq_none_of_at? {place : Place} (h : files.names.at? place = none) :
    files.get? place = none := by
  rw [get?_eq, h]
  rfl

/-- Nothing lies beneath a place where nothing lies. -/
theorem get?_beneath {place rest : Place} (h : files.names.at? place = none) :
    files.get? (place ++ rest) = none :=
  get?_eq_none_of_at? (by rw [NameTree.at?_append, h]; rfl)

/-! ## Following without links -/

/-- Where no item is a link, none lies anywhere. -/
theorem get?_ne_link
    (h : (files.items.toList.any fun item => item.node matches .link _) = false) (place : Place)
    (target : Text) : files.get? place ≠ some (.link target) := by
  intro hlink
  obtain ⟨number, -, hnode⟩ := Option.bind_eq_some_iff.1 hlink
  obtain ⟨item, hitem, hitemNode⟩ := Option.map_eq_some_iff.1 hnode
  have hmem : item ∈ files.items.toList := Array.mem_toList_iff.2 (Array.mem_of_getElem? hitem)
  have hnot := List.any_eq_false.1 h item hmem
  rw [hitemNode] at hnot
  exact hnot rfl

/-- The way goes from folder to folder in a tree. -/
inductive IsWay (root : NameTree) : Way → Prop
  | root : IsWay root []
  | down {above name tree} (h : IsWay root above)
      (hname : (Way.folder root above).held.lookup name = some tree) :
      IsWay root ((name, tree) :: above)

theorem Way.place_cons (above : Way) (name : Text) (tree : NameTree) :
    Way.place ((name, tree) :: above) = Way.place above ++ [name] := by
  simp [Way.place]

/-- The folder at the end of a way is what lies at the way's place. -/
theorem IsWay.at?_place {root : NameTree} {way : Way} (h : IsWay root way) :
    root.at? (Way.place way) = some (Way.folder root way) := by
  induction h with
  | root => rfl
  | down _ hname ih =>
    rw [Way.place_cons, NameTree.at?_concat, ih]
    exact hname

theorem IsWay.tail {root : NameTree} {way : Way} (h : IsWay root way) : IsWay root way.tail := by
  cases h with
  | root => exact .root
  | down h _ => exact h

theorem Way.place_tail (way : Way) : Way.place way.tail = (Way.place way).dropLast := by
  cases way with
  | nil => rfl
  | cons step way =>
    obtain ⟨name, tree⟩ := step
    rw [Way.place_cons, List.dropLast_concat]
    rfl

/-- What the end of a way holds by a name lies at the name's place. -/
theorem IsWay.get?_next {way : Way} (h : IsWay files.names way) (name : Text) :
    files.get? (Way.place way ++ [name]) =
      ((Way.folder files.names way).held.lookup name).bind fun t => files.node? t.number := by
  rw [get?_eq, NameTree.at?_concat, h.at?_place]
  rfl

/-- Where no link is met, names lead to the place that their dots work out to. -/
theorem walkWith_eq_ok {follow : Bool} {onLink : Way → List Text → Except PathFault Spot}
    {above : Way} {names : List Text} {spot : Spot} (hway : IsWay files.names above)
    (hlinks : ∀ front, front <+: names →
      ∀ target, files.get? ((Way.place above).follow front) ≠ some (.link target))
    (h : walkWith files follow onLink above names = .ok spot) :
    spot.place = (Way.place above).follow names ∧ spot.node = files.get? spot.place := by
  induction names generalizing above with
  | nil =>
    rw [walkWith] at h
    cases h
    refine ⟨rfl, ?_⟩
    rw [get?_eq, hway.at?_place]
    rfl
  | cons name rest ih =>
    -- The name leads to a folder, or stays; the other names are followed from there.
    have hrest : ∀ {way : Way}, IsWay files.names way → Way.place way = (Way.place above).next name →
        walkWith files follow onLink way rest = .ok spot →
        spot.place = (Way.place above).follow (name :: rest) ∧
          spot.node = files.get? spot.place := by
      intro way hway' hplace hwalk
      rw [Place.follow_cons, ← hplace]
      refine ih hway' (fun front hfront target => ?_) hwalk
      rw [hplace]
      exact hlinks (name :: front) (List.prefix_cons_inj name |>.2 hfront) target
    rw [walkWith] at h
    dsimp only at h
    split at h
    · next hnil => exact hrest hway (by simp [Place.next, hnil]) h
    · next hnil =>
      split at h
      · cases h
      · split at h
        · next hdot => exact hrest hway (by simp [Place.next, hdot]) h
        · next hdot =>
          split at h
          · next hdots =>
            exact hrest hway.tail (by rw [Way.place_tail]; simp [Place.next, hdots]) h
          · next hdots =>
            have hnext : (Way.place above).next name = Way.place above ++ [name] :=
              Place.next_of_isOwnName ⟨hnil, hdot, hdots⟩ _
            have hget := hway.get?_next name
            -- The last name may lead to nothing, or to something that is no folder.
            have hfound : rest = [] → spot = ⟨Way.place above ++ [name],
                  files.get? (Way.place above ++ [name])⟩ →
                spot.place = (Way.place above).follow (name :: rest) ∧
                  spot.node = files.get? spot.place := by
              rintro rfl rfl
              rw [Place.follow_cons, hnext]
              exact ⟨rfl, rfl⟩
            split at h
            · cases h
            · split at h
              · next hlookup =>
                split at h
                · next hlast =>
                  rw [Bool.and_eq_true, decide_eq_true_eq] at hlast
                  cases h
                  refine hfound hlast.1 ?_
                  rw [hget, hlookup, Way.place_cons]
                  rfl
                · cases h
              · next tree hlookup =>
                rw [hlookup, Option.bind_some] at hget
                split at h
                · next target hlink =>
                  refine absurd (hget.trans hlink) ?_
                  rw [← hnext]
                  exact hlinks [name] (List.prefix_append [name] rest) target
                · exact hrest (.down hway hlookup) (by rw [Way.place_cons, hnext]) h
                · split at h
                  · next hlast =>
                    cases h
                    refine hfound hlast ?_
                    rw [hget, Way.place_cons]
                  · cases h

/-- An absolute path leads to the place that its dots work out to, if no link is met on the way. -/
theorem walk_eq_ok {follow : Bool} {here : Place} {path : Text} {spot : Spot}
    (habs : path.head? = some '/')
    (hlinks : ∀ front, front <+: splitOn '/' path →
      ∀ target, files.get? (Place.follow [] front) ≠ some (.link target))
    (h : files.walk follow here path = .ok spot) :
    spot.place = Place.follow [] (splitOn '/' path) ∧ spot.node = files.get? spot.place := by
  rw [walk, if_pos habs] at h
  split at h
  · cases h
  · split at h
    · cases h
    · exact walkWith_eq_ok .root hlinks h

/-- What is found at an absolute path lies where its dots work out to, if no link is met on the way.
-/
theorem find_eq_ok {here : Place} {path : Text} {node : Node} (habs : path.head? = some '/')
    (hlinks : ∀ front, front <+: splitOn '/' path →
      ∀ target, files.get? (Place.follow [] front) ≠ some (.link target))
    (h : files.find here path = .ok node) :
    files.get? (Place.follow [] (splitOn '/' path)) = some node := by
  rw [find] at h
  split at h
  · next place found hwalk =>
    cases h
    obtain ⟨hplace, hnode⟩ := walk_eq_ok habs hlinks hwalk
    rw [hplace] at hnode
    exact hnode.symm
  · cases h
  · cases h

end Files

theorem Machine.find_eq_ok {m : Machine} {path : Text} {node : Node}
    (habs : path.head? = some '/')
    (hlinks : ∀ front, front <+: splitOn '/' path →
      ∀ target, m.files.get? (Place.follow [] front) ≠ some (.link target))
    (h : m.find path = .ok node) :
    m.files.get? (Place.follow [] (splitOn '/' path)) = some node := by
  unfold Machine.find at h
  split at h
  · exact Files.find_eq_ok habs hlinks h
  · rw [if_pos habs] at h
    exact Files.find_eq_ok habs hlinks h

end JarLens
