import JarLens.Proofs.Files.Changing
import JarLens.Proofs.Tool.Ending
import JarLens.Proofs.Tool.Scratch

/-!
# Work in a scratch folder

What is done with a scratch folder leaves no trace if it stays in the folder and what it leaves there
can be removed (`get?_withScratch`). `Leads` follows an action from one property of the machine to
another, on success and on failure; the properties are `IsBare` for a new scratch folder,
`IsReady` while files are put there, and `IsClean` once other programs have run.
-/

namespace JarLens

open JarLens.Text JarLens.Action

/-! ## Where an action leads -/

namespace Action

/-- From machines with `P` the action leads to machines with `Q`, and if it fails to ones with
`E`. -/
def Leads {α : Type} (launcher : Launcher) (P Q E : Machine → Prop) (a : Action α) : Prop :=
  ∀ s, P s.machine →
    match a launcher s with
    | (.ok _, s') => Q s'.machine
    | (.error _, s') => E s'.machine

namespace Leads

variable {α β : Type} {launcher : Launcher} {P Q R E E' : Machine → Prop}

theorem pure (x : α) : Leads launcher P P E (pure x) := fun _ h => h

theorem throw (f : Failure) : Leads launcher P Q P (throw f : Action α) := fun _ h => h

theorem of_keeps {a : Action α} (h : Keeps State.machine a) : Leads launcher P P P a := by
  intro s hs
  have hmachine := h launcher s
  rcases hrun : a launcher s with ⟨_ | x, s'⟩ <;> rw [hrun] at hmachine
  · exact (congrArg P hmachine).mpr hs
  · exact (congrArg P hmachine).mpr hs

theorem mono {P' Q' : Machine → Prop} {a : Action α} (h : Leads launcher P Q E a)
    (hP : ∀ m, P' m → P m) (hQ : ∀ m, Q m → Q' m) (hE : ∀ m, E m → E' m) :
    Leads launcher P' Q' E' a := by
  intro s hs
  have hleads := h s (hP _ hs)
  rcases hrun : a launcher s with ⟨_ | x, s'⟩ <;> rw [hrun] at hleads
  · exact hE _ hleads
  · exact hQ _ hleads

/-- The second step leads on from where the first one led; both may fail. -/
theorem bind {a : Action α} {f : α → Action β} (ha : Leads launcher P R E a)
    (hf : ∀ x, Leads launcher R Q E (f x)) : Leads launcher P Q E (a >>= f) := by
  intro s hs
  rw [run_bind]
  have hleads := ha s hs
  rcases hrun : a launcher s with ⟨_ | x, s'⟩ <;> rw [hrun] at hleads
  · exact hleads
  · exact hf x s' hleads

theorem map {a : Action α} (f : α → β) (ha : Leads launcher P Q E a) :
    Leads launcher P Q E (f <$> a) := by
  intro s hs
  rw [run_map]
  have hleads := ha s hs
  rcases hrun : a launcher s with ⟨_ | x, s'⟩ <;> rw [hrun] at hleads <;> exact hleads

theorem tryCatch {a : Action α} {handle : Failure → Action α} (ha : Leads launcher P Q E' a)
    (hh : ∀ e, Leads launcher E' Q E (handle e)) : Leads launcher P Q E (tryCatch a handle) := by
  intro s hs
  rw [run_tryCatch]
  have hleads := ha s hs
  rcases hrun : a launcher s with ⟨e | x, s'⟩ <;> rw [hrun] at hleads
  · exact hh e s' hleads
  · exact hleads

/-- Whatever comes of the action, it leads to machines with the property that both ends have. -/
theorem machine_of {a : Action α} (h : Leads launcher P Q Q a) {s : State} (hs : P s.machine) :
    Q (a launcher s).2.machine := by
  have hleads := h s hs
  rcases hrun : a launcher s with ⟨_ | x, s'⟩ <;> rw [hrun] at hleads <;> exact hleads

end Leads

end Action

/-! ## A scratch folder on a machine -/

/-- The scratch area is a folder where its path says, in which the user can make and remove names,
and all places on the machine have something known. -/
structure Machine.HasScratchArea (m : Machine) : Prop extends m.HasRealScratch where
  known : m.files.IsKnown
  changeable : m.files.mayChange m.scratch = true

/-- The files are the same but for a place and what lies beneath it. -/
def Files.SameOutside (files files' : Files) (place : Place) : Prop :=
  ∀ other, ¬place <+: other → files'.get? other = files.get? other

/-- A machine is `m` but for the next scratch folder, and what lies there can be removed. -/
structure Machine.IsClean (m : Machine) (kind : Text) (m' : Machine) : Prop where
  same : m.files.SameOutside m'.files (m.freshScratch kind)
  clears : m'.files.Clears (m.freshScratch kind)

/-- A machine is `m` with its next scratch folder, in which files can be put. -/
structure Machine.IsReady (m : Machine) (kind : Text) (m' : Machine) : Prop
    extends m.IsClean kind m' where
  folder : m'.files.get? (m.freshScratch kind) = some (.folder scratchMode)

/-- A machine is `m` with its next scratch folder, in which nothing lies. -/
structure Machine.IsBare (m : Machine) (kind : Text) (m' : Machine) : Prop where
  same : m.files.SameOutside m'.files (m.freshScratch kind)
  known : m'.files.IsKnown
  empty : ∃ number, m'.files.names.at? (m.freshScratch kind) = some (.node number []) ∧
    m'.files.node? number = some (.folder scratchMode)

namespace Machine

variable {m m' : Machine} {kind : Text}

theorem freshScratch_ne_nil (m : Machine) (kind : Text) : m.freshScratch kind ≠ [] := by
  simp [freshScratch]

/-- The scratch area is outside of the new folder. -/
theorem not_prefix_scratch (m : Machine) (kind : Text) : ¬m.freshScratch kind <+: m.scratch := by
  intro hbefore
  have hlength := hbefore.length_le
  rw [freshScratch, List.length_append, List.length_singleton] at hlength
  omega

theorem mayChange_of_same (h : m.HasScratchArea) {files : Files}
    (hsame : m.files.SameOutside files (m.freshScratch kind)) :
    files.mayChange (m.freshScratch kind).dropLast = true := by
  rw [freshScratch, List.dropLast_concat, Files.mayChange, hsame _ (m.not_prefix_scratch kind)]
  exact h.changeable

/-- A scratch folder can be removed if what it holds can. -/
theorem clears_of_leftOfHeld (harea : m.HasScratchArea) {files : Files} {number : Nat}
    {held : List (Text × NameTree)}
    (hsame : m.files.SameOutside files (m.freshScratch kind))
    (hat : files.names.at? (m.freshScratch kind) = some (.node number held))
    (hnode : files.node? number = some (.folder scratchMode))
    (hheld : Files.leftOfHeld files true held = []) : files.Clears (m.freshScratch kind) := by
  have hget : files.get? (m.freshScratch kind) = some (.folder scratchMode) := by
    rw [Files.get?_eq, hat]
    exact hnode
  refine Files.clears_of_leftOf (m.freshScratch_ne_nil kind) hget hat ?_
  rw [mayChange_of_same harea hsame]
  have hread : isReadable scratchMode = true := by decide
  have hwrite : isWritable scratchMode = true := by decide
  have hsearch : isExecutable scratchMode = true := by decide
  simp [Files.leftOf, hnode, hread, hwrite, hsearch, hheld]

theorem IsBare.get?_freshScratch (h : m.IsBare kind m') :
    m'.files.get? (m.freshScratch kind) = some (.folder scratchMode) := by
  obtain ⟨number, hat, hnode⟩ := h.empty
  rw [Files.get?_eq, hat]
  exact hnode

/-- A bare scratch folder can be cleared and lies where it was made. -/
theorem IsBare.isReady (harea : m.HasScratchArea) (h : m.IsBare kind m') : m.IsReady kind m' := by
  obtain ⟨number, hat, hnode⟩ := h.empty
  exact ⟨⟨h.same, clears_of_leftOfHeld harea h.same hat hnode (by rw [Files.leftOfHeld])⟩,
    h.get?_freshScratch⟩

/-- A new scratch folder is bare. -/
theorem isBare_withScratch (harea : m.HasScratchArea) (kind : Text) :
    m.IsBare kind (m.withScratch kind) := by
  have hnone := at?_freshScratch m kind
  obtain ⟨t, hscratch⟩ : ∃ t, m.files.names.at? m.scratch = some t := by
    have hchange := harea.changeable
    rw [Files.mayChange, Files.get?_eq] at hchange
    cases hat : m.files.names.at? m.scratch with
    | some t => exact ⟨t, rfl⟩
    | none =>
      rw [hat] at hchange
      cases hchange
  refine ⟨fun other hother => Files.get?_put_of_not_prefix harea.known hnone hother _,
    harea.known.put_concat hscratch hnone _, m.files.items.size,
    Files.at?_put_concat hscratch hnone _, ?_⟩
  show (m.files.put (m.freshScratch kind) (.folder scratchMode)).node? m.files.items.size = _
  rw [Files.node?_put_of_at? hnone, if_pos rfl]

/-! ## Files in a bare folder -/

/-- Nothing lies in a bare folder. -/
theorem IsBare.at?_append (h : m.IsBare kind m') (name : Text) (rest : Place) :
    m'.files.names.at? (m.freshScratch kind ++ name :: rest) = none := by
  obtain ⟨number, hat, -⟩ := h.empty
  rw [NameTree.at?_append, hat]
  rfl

/-- No link is met on the way to a name in a bare folder. -/
theorem IsBare.not_link (harea : m.HasScratchArea) (hkind : '/' ∉ kind) (h : m.IsBare kind m')
    {name : Text} (hname : IsPlaceName name) {front : List Text}
    (hfront : front <+: [] :: m.freshScratch kind ++ [name]) (target : Text) :
    m'.files.get? (Place.follow [] front) ≠ some (.link target) := by
  have hin : staysInside 0 ([] ++ [name]) = true := staysInside_append_own hname.toIsOwnName
  rcases harea.prefix_or_prefix_follow hkind hin hfront with hplace | ⟨rest, hplace⟩
  · rw [h.same _ fun hbefore => m.not_prefix_scratch kind (hbefore.trans hplace)]
    exact harea.noLink _ hplace target
  · rw [← hplace]
    cases rest with
    | nil => simp [h.get?_freshScratch]
    | cons next rest => simp [Files.get?_eq_none_of_at? (h.at?_append next rest)]

/-- A file that is put in a bare folder leaves it ready. -/
theorem IsBare.put (harea : m.HasScratchArea) (h : m.IsBare kind m') (name : Text) {node : Node}
    (hnode : node.isFile = true) :
    m.IsReady kind (m'.withFiles (m'.files.put (m.freshScratch kind ++ [name]) node)) := by
  have hnone := h.at?_append name []
  obtain ⟨number, hat, -⟩ := h.empty
  have hself : ¬m.freshScratch kind ++ [name] <+: m.freshScratch kind := by
    intro hbefore
    have hlength := hbefore.length_le
    rw [List.length_append, List.length_singleton] at hlength
    omega
  have hsame : m.files.SameOutside (m'.files.put (m.freshScratch kind ++ [name]) node)
      (m.freshScratch kind) := by
    intro other hother
    have hoff : ¬m.freshScratch kind ++ [name] <+: other := fun hbefore =>
      hother ((List.prefix_append _ _).trans hbefore)
    rw [Files.get?_put_of_not_prefix h.known hnone hoff, h.same other hother]
  have hfolder : (m'.files.put (m.freshScratch kind ++ [name]) node).get? (m.freshScratch kind) =
      some (.folder scratchMode) := by
    rw [Files.get?_put_of_not_prefix h.known hnone hself, h.get?_freshScratch]
  have htree : (m'.files.put (m.freshScratch kind ++ [name]) node).names.at? (m.freshScratch kind) =
      some (.node number [(name, .node m'.files.items.size [])]) := by
    rw [Files.names_put_of_at? hnone, NameTree.at?_add_append _ _ (by simp), hat]
    rfl
  have hmine : (m'.files.put (m.freshScratch kind ++ [name]) node).node? number =
      some (.folder scratchMode) := by
    rw [Files.get?_eq, htree] at hfolder
    exact hfolder
  have hfile : (m'.files.put (m.freshScratch kind ++ [name]) node).node? m'.files.items.size =
      some node := by
    rw [Files.node?_put_of_at? hnone, if_pos rfl]
  -- The folder holds one file now, and a file in a changeable folder can be removed.
  have hheld : Files.leftOfHeld (m'.files.put (m.freshScratch kind ++ [name]) node) true
      [(name, .node m'.files.items.size [])] = [] := by
    cases node with
    | file content mode => simp [Files.leftOfHeld, Files.leftOf, hfile]
    | folder | link | device => cases hnode
  exact ⟨⟨hsame, clears_of_leftOfHeld harea hsame htree hmine hheld⟩, hfolder⟩

/-- What is written in a bare folder lies there. -/
theorem IsBare.write_eq (harea : m.HasScratchArea) (hkind : '/' ∉ kind) (h : m.IsBare kind m')
    {name : Text} (hname : IsPlaceName name) {content : ByteArray} {files : Files}
    (hwrite : m'.files.write [] (m.freshScratch kind ++ [name]).toText content = .ok files) :
    files = m'.files.put (m.freshScratch kind ++ [name]) (.file content Files.newFileMode) := by
  have hnames : ∀ other ∈ m.freshScratch kind ++ [name], IsPlaceName other := by
    intro other hother
    rcases List.mem_append.1 hother with hmem | hmem
    · exact harea.isPlaceName_freshScratch hkind other hmem
    · rw [List.mem_singleton.1 hmem]
      exact hname
  have hsplit := Place.splitOn_toText (by simp) hnames
  unfold Files.write at hwrite
  cases hwalk : m'.files.walk true [] (m.freshScratch kind ++ [name]).toText with
  | error fault =>
    rw [hwalk] at hwrite
    cases hwrite
  | ok spot =>
    obtain ⟨hplace, hfound⟩ := Files.walk_eq_ok rfl
      (fun front hfront => h.not_link harea hkind hname (by rwa [hsplit] at hfront)) hwalk
    have hown := fun other hother => (hnames other hother).toIsOwnName
    rw [hsplit, Place.follow_cons] at hplace
    replace hplace := hplace.trans (Place.follow_of_isOwnName hown [])
    rw [hplace, List.nil_append, Files.get?_eq_none_of_at? (h.at?_append name [])] at hfound
    obtain ⟨place, node⟩ := spot
    cases hplace
    cases hfound
    rw [hwalk] at hwrite
    simp only [bind, Except.bind] at hwrite
    split at hwrite
    · exact (Except.ok.inj hwrite).symm
    · cases hwrite

end Machine

/-! ## Actions with a scratch folder -/

theorem run_withScratch {α : Type} {kind : String} {body : Place → Action α} (launcher : Launcher)
    (s : State) :
    withScratch kind body launcher s =
      match body (s.machine.freshScratch kind.toList) launcher
        { s with machine := s.machine.withScratch kind.toList } with
      | (x, s') =>
        (x, { s' with
          machine := s'.machine.withoutScratch (s.machine.freshScratch kind.toList) }) := by
  have hclose : ∀ place s, closeScratch place launcher s =
      (.ok (), { s with machine := s.machine.withoutScratch place }) := fun _ _ => rfl
  have hopen : openScratch kind launcher s = (.ok (s.machine.freshScratch kind.toList),
      { s with machine := s.machine.withScratch kind.toList }) := rfl
  unfold withScratch Action.andThenDo Action.orElseDo
  simp only [run_bind, run_tryCatch, hopen]
  rcases body (s.machine.freshScratch kind.toList) launcher
    { s with machine := s.machine.withScratch kind.toList } with ⟨_ | x, s'⟩
  · simp only [hclose, run_throw]
  · simp only [hclose, run_pure]

/-- What is done in a scratch folder and stays there leaves no trace. -/
theorem get?_withScratch {α : Type} {kind : String} {body : Place → Action α} {launcher : Launcher}
    {s : State} (harea : s.machine.HasScratchArea)
    (hbody : Leads launcher (s.machine.IsBare kind.toList) (s.machine.IsClean kind.toList)
      (s.machine.IsClean kind.toList) (body (s.machine.freshScratch kind.toList)))
    (other : Place) :
    (withScratch kind body launcher s).2.machine.files.get? other = s.machine.files.get? other := by
  have hclean := hbody.machine_of
    (s := { s with machine := s.machine.withScratch kind.toList })
    (Machine.isBare_withScratch harea kind.toList)
  rw [run_withScratch]
  show (Files.eraseFolder _ _).get? other = _
  by_cases hother : s.machine.freshScratch kind.toList <+: other
  · obtain ⟨rest, rfl⟩ := hother
    rw [hclean.clears rest, get?_freshScratch]
  · rw [Files.get?_eraseFolder_of_not_prefix hother, hclean.same other hother]

end JarLens
