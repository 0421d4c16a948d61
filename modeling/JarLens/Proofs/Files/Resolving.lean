import JarLens.Proofs.Failing
import JarLens.Proofs.Files.Following

/-!
# Real places

A place is real if the system shows no link on the way to it. What resolving keeps as it goes from
name to name and from link to link is stated once, for any property of paths (`of_resolve`), as long
as no link leads back to itself; that the path is the one of a real place is such a property. So an
absolute path resolves to a real place (`isReal_of_place`), and the path of a real place leads back
to it (`place_toText`), for which nothing on the way may be a link that cannot be followed either
(`find_ne_linkLoop`).
-/

namespace JarLens

open JarLens.Text

namespace Files

/-! ## What resolving keeps -/

/-- A property of paths that is kept when names are followed, where `Q` is known of the names. -/
structure IsKept (files : Files) (here : Place) (Q : Text → Prop) (P : PathName → Prop) : Prop where
  root : P .root
  up : ∀ {path}, P path → P path.up
  concat : ∀ {path name}, P path → IsOwnName name → Q name →
    files.linkAt? here (path.concat name) = none → P (path.concat name)
  piece : ∀ {target : Text}, ∀ name ∈ splitOn '/' target, Q name

/-- The links of which this is known lead to paths with the property. -/
def MetLinks.All (P : PathName → Prop) (links : MetLinks) : Prop :=
  ∀ path goal, (path, some goal) ∈ links → P goal

/-- Following names from a path with the property leads to one, as long as known links do and none
leads back to itself. -/
def Leads (Q : Text → Prop) (P : PathName → Prop)
    (follow : MetLinks → PathName → List Text → Option Resolved) : Prop :=
  ∀ {links path names found}, MetLinks.All P links → P path → (∀ name ∈ names, Q name) →
    follow links path names = some found → found.isWhole = true →
      P found.path ∧ MetLinks.All P found.links

section Kept

variable {files : Files} {here : Place} {Q : Text → Prop} {P : PathName → Prop}

theorem MetLinks.All.cons {links : MetLinks} (h : MetLinks.All P links) {path goal : PathName}
    (hgoal : P goal) : MetLinks.All P ((path, some goal) :: links) := by
  intro other goal' hmem
  rcases List.mem_cons.1 hmem with heq | hmem
  · cases heq
    exact hgoal
  · exact h other goal' hmem

theorem MetLinks.All.cons_none {links : MetLinks} (h : MetLinks.All P links) (path : PathName) :
    MetLinks.All P ((path, none) :: links) := by
  intro other goal hmem
  rcases List.mem_cons.1 hmem with heq | hmem
  · cases heq
  · exact h other goal hmem

/-- By induction over the names, resolving keeps what is kept, if following links does. -/
theorem leads_resolveWith (hP : IsKept files here Q P)
    {onLink : MetLinks → PathName → List Text → Option Resolved} (honLink : Leads Q P onLink) :
    Leads Q P (resolveWith files here onLink) := by
  intro links path names
  induction names generalizing links path with
  | nil =>
    intro found hlinks hpath _ h _
    cases h
    exact ⟨hpath, hlinks⟩
  | cons name names ih =>
    intro found hlinks hpath hnames h hwhole
    have hrest : ∀ other ∈ names, Q other := fun other hother => hnames other (.tail name hother)
    unfold resolveWith at h
    split at h
    · exact ih hlinks hpath hrest h hwhole
    · next hstays =>
      split at h
      · exact ih hlinks (hP.up hpath) hrest h hwhole
      · next hup =>
        have hown : IsOwnName name :=
          ⟨fun hnil => hstays (by simp [hnil]), fun hdot => hstays (by simp [hdot]), hup⟩
        dsimp only at h
        split at h
        · next hnot =>
          exact ih hlinks (hP.concat hpath hown (hnames name List.mem_cons_self) hnot) hrest h
            hwhole
        · next target _ =>
          -- A link leads where it is known to lead, or back to itself, or is met now.
          split at h
          · next goal hgoal =>
            obtain ⟨before, after, hmet, -⟩ := List.lookup_eq_some_iff.1 hgoal
            have hmem : (path.concat name, some goal) ∈ links := by
              rw [hmet]
              exact List.mem_append_right before List.mem_cons_self
            exact ih hlinks (hlinks _ _ hmem) hrest h hwhole
          · cases h
            cases hwhole
          · split at h
            · cases h
            · next found' hfollow =>
              split at h
              · next hwhole' =>
                have hstart : P (if target.head? = some '/' then .root else path) := by
                  split
                  · exact hP.root
                  · exact hpath
                obtain ⟨hgoal, hlinks'⟩ :=
                  honLink (hlinks.cons_none _) hstart hP.piece hfollow hwhole'
                exact ih (hlinks'.cons hgoal) hgoal hrest h hwhole
              · next hloop =>
                cases h
                exact absurd hwhole hloop

/-- By induction over the depth, it does so however deep links lead to one another. -/
theorem leads_resolveNames (hP : IsKept files here Q P) (depth : Nat) :
    Leads Q P (resolveNames files here depth) := by
  induction depth with
  | zero => exact leads_resolveWith hP fun _ _ _ h => by cases h
  | succ depth ih => exact leads_resolveWith hP ih

/-- What is kept is true of the path that an absolute path resolves to. -/
theorem of_resolve (hP : IsKept files here Q P) {depth : Nat} {path : PathName} {found : Resolved}
    (habsolute : path.isAbsolute = true) (hparts : ∀ part ∈ path.parts, Q part)
    (h : files.resolve depth here path = some found) (hwhole : found.isWhole = true) :
    P found.path := by
  unfold resolve at h
  rw [if_pos habsolute] at h
  have hnone : MetLinks.All P [] := fun _ _ h => absurd h List.not_mem_nil
  exact (leads_resolveNames hP depth hnone hP.root hparts h hwhole).1

end Kept

/-! ## Real places -/

/-- The names of a place are names of folders and files, and none of them is shown as a link's. -/
structure IsReal (files : Files) (place : Place) : Prop where
  isPlaceName : ∀ name ∈ place, IsPlaceName name
  not_link : ∀ front name, front ++ [name] <+: place →
    files.linkAt? [] ⟨1, front ++ [name]⟩ = none

section Real

variable {files : Files} {here place front : Place} {name : Text}

theorem isReal_nil : files.IsReal [] where
  isPlaceName name hname := absurd hname List.not_mem_nil
  not_link front name h := absurd (List.prefix_nil.1 h) (by simp)

/-- Every place on the way to a real one is real. -/
theorem IsReal.mono (h : files.IsReal place) (hfront : front <+: place) :
    files.IsReal front where
  isPlaceName name hname := h.isPlaceName name (hfront.subset hname)
  not_link front' name hfront' := h.not_link front' name (hfront'.trans hfront)

theorem IsReal.concat (h : files.IsReal place) (hname : IsPlaceName name)
    (hnot : files.linkAt? [] ⟨1, place ++ [name]⟩ = none) : files.IsReal (place ++ [name]) where
  isPlaceName other hother := by
    rcases List.mem_append.1 hother with hmem | hmem
    · exact h.isPlaceName other hmem
    · exact List.mem_singleton.1 hmem ▸ hname
  not_link front other hfront := by
    rcases List.prefix_concat_iff.1 hfront with heq | hbefore
    · exact heq ▸ hnot
    · exact h.not_link front other hbefore

theorem IsReal.isOwnName (h : files.IsReal place) : ∀ name ∈ place, IsOwnName name :=
  fun name hname => (h.isPlaceName name hname).toIsOwnName

/-- An absolute path is followed from the root, wherever one is. -/
theorem linkAt?_of_slash (here place : Place) :
    files.linkAt? here ⟨1, place⟩ = files.linkAt? [] ⟨1, place⟩ := by
  have hwalk : files.walk false here (PathName.toText ⟨1, place⟩) =
      files.walk false [] (PathName.toText ⟨1, place⟩) := rfl
  unfold linkAt?
  rw [hwalk]

/-- An absolute path leads through real places. -/
theorem isKept_isReal (files : Files) (here : Place) :
    IsKept files here ('/' ∉ ·) fun path => path.slashes = 1 ∧ files.IsReal path.parts where
  root := ⟨rfl, isReal_nil⟩
  up {path} h := by
    obtain ⟨hslashes, hreal⟩ := h
    unfold PathName.up
    split
    · exact ⟨by simp [PathName.isAbsolute, hslashes], by simpa [PathName.isAbsolute, hslashes]⟩
    · next part hpart =>
      have hdots := (hreal.isOwnName part (List.mem_of_getLast? hpart)).ne_dots
      rw [if_neg hdots]
      exact ⟨hslashes, hreal.mono (List.dropLast_prefix _)⟩
  concat {path name} h hown hslash hnot := by
    obtain ⟨slashes, parts⟩ := path
    obtain ⟨rfl, hreal⟩ := h
    have hnot' := (linkAt?_of_slash here (parts ++ [name])).symm.trans hnot
    exact ⟨rfl, hreal.concat ⟨hown, hslash⟩ hnot'⟩
  piece name hname hslash := by
    have hpiece := not_sep_of_mem_splitBy hname '/' hslash
    cases hpiece

/-- Where no link is met, names lead to the place that they name. -/
theorem resolveWith_of_isReal {names : List Text}
    {onLink : MetLinks → PathName → List Text → Option Resolved} (links : MetLinks)
    (h : files.IsReal (place ++ names)) :
    resolveWith files [] onLink links ⟨1, place⟩ names =
      some ⟨⟨1, place ++ names⟩, true, links⟩ := by
  induction names generalizing place with
  | nil => rw [resolveWith, List.append_nil]
  | cons name names ih =>
    have hsplit : place ++ name :: names = place ++ [name] ++ names := by simp
    have hname := h.isOwnName name (by simp)
    have hnot : files.linkAt? [] (PathName.concat ⟨1, place⟩ name) = none :=
      h.not_link place name (hsplit ▸ List.prefix_append _ _)
    rw [hsplit] at h ⊢
    rw [resolveWith, if_neg (by simp [hname.ne_nil, hname.ne_dot]), if_neg hname.ne_dots]
    simp only [hnot]
    exact ih h

/-- The path of a real place is resolved to itself. -/
theorem resolve_of_isReal (h : files.IsReal place) (depth : Nat) :
    files.resolve depth [] ⟨1, place⟩ = some ⟨⟨1, place⟩, true, []⟩ := by
  rw [← List.nil_append place] at h
  cases depth with
  | zero => exact resolveWith_of_isReal [] h
  | succ depth => exact resolveWith_of_isReal [] h

end Real

/-! ## Paths of places -/

section Texts

variable {files : Files} {place : Place} {name : Text}

theorem foldl_utf8Size (t : Text) (n : Nat) :
    t.foldl (fun n c => n + c.utf8Size) n = n + byteLength t := by
  induction t generalizing n with
  | nil => rfl
  | cons c t ih =>
    rw [byteLength, List.foldl_cons, List.foldl_cons, ih, ih (0 + c.utf8Size), Nat.zero_add,
      Nat.add_assoc]

theorem byteLength_append (a b : Text) : byteLength (a ++ b) = byteLength a + byteLength b := by
  rw [byteLength, List.foldl_append, foldl_utf8Size]
  rfl

/-- The path of a place is followed name by name, unless it is too long. -/
theorem walk_toText (files : Files) (follow : Bool) (h : ∀ name ∈ place, IsPlaceName name) :
    files.walk follow [] place.toText =
      if pathLimit < byteLength place.toText then .error .tooLong
      else walkNames files follow linkLimit [] place := by
  have hskip : ∀ names, walkNames files follow linkLimit [] ([] :: names) =
      walkNames files follow linkLimit [] names := by
    intro names
    rw [linkLimit, walkNames, walkWith, if_pos rfl]
  have hnames : walkNames files follow linkLimit [] (splitOn '/' place.toText) =
      walkNames files follow linkLimit [] place := by
    by_cases hne : place = []
    · subst hne
      exact (hskip [[]]).trans (hskip [])
    · rw [Place.splitOn_toText hne h, hskip]
  have hne : place.toText ≠ [] := List.cons_ne_nil _ _
  have hhead : place.toText.head? = some '/' := rfl
  rw [walk, if_neg hne, if_pos hhead, hnames]

theorem byteLength_toText_le (place : Place) (name : Text) :
    byteLength place.toText ≤ byteLength (place ++ [name]).toText := by
  by_cases hne : place = []
  · rw [hne, show Place.toText ([] ++ [name]) = Place.toText [] ++ name from rfl, byteLength_append]
    exact Nat.le_add_right _ _
  · rw [Place.toText_concat hne, byteLength_append]
    exact Nat.le_add_right _ _

theorem byteLength_toText_append (place rest : Place) :
    byteLength place.toText ≤ byteLength (place ++ rest).toText := by
  induction rest generalizing place with
  | nil => exact Nat.le_of_eq (by rw [List.append_nil])
  | cons name rest ih =>
    have hsplit : place ++ name :: rest = place ++ [name] ++ rest := by simp
    rw [hsplit]
    exact Nat.le_trans (byteLength_toText_le place name) (ih (place ++ [name]))

/-! ## Following the path of a real place -/

/-- From the root, names lead to the end of a way, whatever is done about links. -/
def LeadsTo (files : Files) (front : Place) (way : Way) : Prop :=
  ∀ follow onLink rest,
    walkWith files follow onLink [] (front ++ rest) = walkWith files follow onLink way rest

theorem leadsTo_nil (files : Files) : LeadsTo files [] [] := fun _ _ _ => rfl

section Step

variable {front : Place} {way : Way} {tree : NameTree}

/-- A name that leads to something from the end of a way, as far as it can be looked for there. -/
structure IsHeld (files : Files) (way : Way) (name : Text) (tree : NameTree) : Prop where
  isOwnName : IsOwnName name
  searchable : (files.node? (Way.folder files.names way).number).any Node.isSearchable = true
  short : ¬nameLimit < byteLength name
  held : (Way.folder files.names way).held.lookup name = some tree

theorem IsHeld.walkWith_eq (h : IsHeld files way name tree) (follow : Bool)
    (onLink : Way → List Text → Except PathFault Spot) (rest : List Text) :
    walkWith files follow onLink way (name :: rest) =
      match files.node? tree.number with
      | some (.link target) =>
        if rest = [] && !follow then
          .ok ⟨Way.place ((name, Way.folder files.names way) :: way), some (.link target)⟩
        else onLink (if target.head? = some '/' then [] else way) (splitOn '/' target ++ rest)
      | some (.folder _) => walkWith files follow onLink ((name, tree) :: way) rest
      | node =>
        if rest = [] then .ok ⟨Way.place ((name, Way.folder files.names way) :: way), node⟩
        else .error .notFolder := by
  rw [walkWith]
  rcases hnode : files.node? tree.number with - | (_ | _ | _) <;>
    simp only [h.isOwnName.ne_nil, h.isOwnName.ne_dot, h.isOwnName.ne_dots, h.searchable, h.short,
      h.held, hnode, ↓reduceIte, Bool.not_true, Bool.false_eq_true]

theorem LeadsTo.concat (hfront : LeadsTo files front way) (h : IsHeld files way name tree)
    {mode : Nat} (hnode : files.node? tree.number = some (.folder mode)) :
    LeadsTo files (front ++ [name]) ((name, tree) :: way) := by
  intro follow onLink rest
  rw [List.append_assoc, List.singleton_append, hfront, h.walkWith_eq, hnode]

/-- A link at the end of a way is shown, if the path is not too long. -/
theorem LeadsTo.linkAt?_eq (hfront : LeadsTo files front way) (h : IsHeld files way name tree)
    {target : Text} (hnode : files.node? tree.number = some (.link target))
    (hnames : ∀ other ∈ front ++ [name], IsPlaceName other)
    (hshort : ¬pathLimit < byteLength (front ++ [name]).toText) :
    files.linkAt? [] ⟨1, front ++ [name]⟩ = some target := by
  have hwalk : files.walk false [] (PathName.toText ⟨1, front ++ [name]⟩) =
      walkNames files false linkLimit [] (front ++ [name]) := by
    have htext := walk_toText files false hnames
    rw [if_neg hshort] at htext
    exact htext
  rw [linkAt?, hwalk, linkLimit, walkNames, hfront, h.walkWith_eq, hnode]
  rfl

end Step

/-- By induction over the names, no link is met on the way to a real place, for it would be shown.
-/
theorem walkWith_ne_linkLoop {front : Place} {way : Way} {names : List Text}
    {onLink : Way → List Text → Except PathFault Spot} (hfront : LeadsTo files front way)
    (hreal : files.IsReal (front ++ names))
    (hshort : ¬pathLimit < byteLength (front ++ names).toText) :
    walkWith files true onLink way names ≠ .error .linkLoop := by
  induction names generalizing front way with
  | nil => simp [walkWith]
  | cons name rest ih =>
    have hsplit : front ++ name :: rest = front ++ [name] ++ rest := by simp
    have hown := hreal.isOwnName name (by simp)
    have hnames : ∀ other ∈ front ++ [name], IsPlaceName other := fun other hother =>
      hreal.isPlaceName other (hsplit ▸ List.mem_append_left rest hother)
    have hnot := hreal.not_link front name (hsplit ▸ List.prefix_append _ _)
    rw [hsplit] at hreal hshort
    by_cases hsearchable :
        ¬(files.node? (Way.folder files.names way).number).any Node.isSearchable = true
    · simp [walkWith, hown.ne_nil, hsearchable]
    rw [Classical.not_not] at hsearchable
    by_cases hlong : nameLimit < byteLength name
    · simp [walkWith, hown.ne_nil, hown.ne_dot, hown.ne_dots, hsearchable, hlong]
    cases hheld : (Way.folder files.names way).held.lookup name with
    | none =>
      simp only [walkWith, hown.ne_nil, hown.ne_dot, hown.ne_dots, hsearchable, hlong, hheld,
        ↓reduceIte, Bool.not_true, Bool.false_eq_true]
      split <;> simp
    | some tree =>
      have h : IsHeld files way name tree := ⟨hown, hsearchable, hlong, hheld⟩
      rw [h.walkWith_eq]
      split
      · next target hnode =>
        have hlink := hfront.linkAt?_eq h hnode hnames fun hlong' =>
          hshort (Nat.lt_of_lt_of_le hlong' (byteLength_toText_append _ rest))
        rw [hnot] at hlink
        cases hlink
      · next hnode => exact ih (hfront.concat h hnode) hreal hshort
      · split <;> simp

/-- The path of a real place does not lead through too many links. -/
theorem find_ne_linkLoop (h : files.IsReal place) :
    files.find [] place.toText ≠ .error .linkLoop := by
  unfold find
  rw [walk_toText files true h.isPlaceName]
  by_cases hlong : pathLimit < byteLength place.toText
  · rw [if_pos hlong]
    simp
  · have hwalk : walkNames files true linkLimit [] place ≠ .error .linkLoop :=
      walkWith_ne_linkLoop (leadsTo_nil files) h hlong
    rw [if_neg hlong]
    split
    · simp
    · simp
    · next fault hfault =>
      rintro ⟨⟩
      exact hwalk hfault

end Texts

end Files

/-! ## Paths of callers -/

section Paths

variable {m : Machine} {place : Place} {path : Text}

theorem PathName.slash_not_mem_ofText {t part : Text} (h : part ∈ (ofText t).parts) :
    '/' ∉ part := by
  intro hmem
  have hpiece := not_sep_of_mem_splitBy (List.mem_filter.1 h).1 '/' hmem
  cases hpiece

theorem PathName.ofText_toText_of_isReal {files : Files} (h : files.IsReal place) :
    ofText place.toText = ⟨1, place⟩ := by
  by_cases hne : place = []
  · rw [hne]
    rfl
  · exact ofText_toText hne h.isPlaceName

/-- This holds with the home folder in place of its sign. -/
theorem Machine.slash_not_mem_expandHome {name : PathName}
    (h : m.expandHome (PathName.ofText path) = .ok name) : ∀ part ∈ name.parts, '/' ∉ part := by
  have hpath : ∀ part ∈ (PathName.ofText path).parts, '/' ∉ part :=
    fun part => PathName.slash_not_mem_ofText
  unfold expandHome at h
  split at h
  · next user parts hslashes hparts =>
    split at h
    · cases h
    · split at h
      · cases h
      · next home _ =>
        split at h
        · cases h
        · cases h
          intro part hmem
          rcases List.mem_append.1 hmem with hhome | hrest
          · exact PathName.slash_not_mem_ofText hhome
          · exact hpath part (hparts ▸ List.mem_cons_of_mem _ hrest)
  · cases h
    exact hpath

/-- The place of a path is where its resolved path leads, from the root if the path is absolute. -/
theorem Machine.exists_of_place (h : m.place path = .ok place) : ∃ name here found,
    m.expandHome (PathName.ofText path) = .ok name ∧
    m.files.resolve m.linkDepth here name = some found ∧ place = found.place here ∧
    (name.isAbsolute = true → here = []) := by
  unfold Machine.place at h
  obtain ⟨name, hname, h⟩ := exists_of_bind_eq_ok h
  simp only [bind, Except.bind, pure, Except.pure] at h
  split at h
  · cases h
  · split at h
    · next here hstart =>
      split at h
      · cases h
      · next found hresolve =>
        split at h
        · cases h
        · cases h
          refine ⟨name, here, found, hname, hresolve, rfl, fun habsolute => ?_⟩
          rw [if_pos habsolute] at hstart
          exact (Option.some.inj hstart).symm
    · cases h

/-- The path of a place is absolute, so that it does not matter where it is followed from. -/
theorem Machine.find_toText (m : Machine) (place : Place) :
    m.find place.toText = m.files.find [] place.toText := by
  unfold Machine.find
  split
  · rfl
  · rfl

/-- The path is absolute, and no link is met on it that leads back to itself. -/
def ResolvesWhole (m : Machine) (path : Text) : Prop :=
  ∃ name found, m.expandHome (PathName.ofText path) = .ok name ∧ name.isAbsolute = true ∧
    m.files.resolve m.linkDepth [] name = some found ∧ found.isWhole = true

/-- Such a path names a real place. -/
theorem isReal_of_place (hwhole : ResolvesWhole m path) (h : m.place path = .ok place) :
    m.files.IsReal place := by
  obtain ⟨name, found, hname, habsolute, hresolve, hfound⟩ := hwhole
  obtain ⟨name', here, found', hname', hresolve', rfl, hhere⟩ := Machine.exists_of_place h
  rw [hname] at hname'
  cases hname'
  rw [hhere habsolute, hresolve] at hresolve'
  cases hresolve'
  obtain ⟨hslashes, hreal⟩ := Files.of_resolve (Files.isKept_isReal m.files []) habsolute
    (Machine.slash_not_mem_expandHome hname) hresolve hfound
  have hplace : found.place here = found.path.parts := by
    unfold Files.Resolved.place
    rw [if_pos (by simp [PathName.isAbsolute, hslashes]), Place.follow_of_isOwnName hreal.isOwnName]
    rfl
  exact hplace ▸ hreal

/-- The path of a real place names the place. -/
theorem place_toText (h : m.files.IsReal place) (hnul : ∀ name ∈ place, '\x00' ∉ name) :
    m.place place.toText = .ok place := by
  have hexpand : m.expandHome (PathName.ofText place.toText) = .ok ⟨1, place⟩ := by
    rw [PathName.ofText_toText_of_isReal h]
    rfl
  have hany : place.any ('\x00' ∈ ·) = false := by simpa using hnul
  have habsolute : PathName.isAbsolute ⟨1, place⟩ = true := rfl
  have hplace : Files.Resolved.place ⟨⟨1, place⟩, true, []⟩ [] = place :=
    (Place.follow_of_isOwnName h.isOwnName []).trans (List.nil_append place)
  unfold Machine.place
  simp only [hexpand, bind, Except.bind, pure, Except.pure, hany, habsolute, Bool.false_eq_true,
    ↓reduceIte, Files.resolve_of_isReal h, hplace]
  split
  · next hloop => exact absurd hloop (Files.find_ne_linkLoop h)
  · rfl

end Paths

end JarLens
