import JarLens.Proofs.Files.Following
import JarLens.Tool.Scratch
import Mathlib.Data.List.Nodup
import Mathlib.Data.List.Perm.Subperm

/-!
# Names of scratch folders

The name of a new scratch folder is one that nothing in the scratch area has
(`freshScratchName_not_mem`): names with different numbers differ, so that among one more than there
are some name is free. Nothing lies at its place, or beneath it.
-/

namespace JarLens

/-- The name's number, filled up with zeros. -/
def scratchNumber (k : Nat) : Text :=
  List.replicate (scratchDigits - (Text.ofNat k).length) '0' ++ Text.ofNat k

theorem scratchName_eq (kind : Text) (k : Nat) :
    scratchName kind k = "jar-viewer-".toList ++ (kind ++ '-' :: scratchNumber k) := by
  unfold scratchName scratchNumber
  generalize "jar-viewer-".toList = start
  simp only [List.append_assoc, List.cons_append]

theorem scratchNumber_injective : Function.Injective scratchNumber := by
  have hvalue : ∀ k, Nat.ofDigitChars 10 (scratchNumber k) 0 = k := by
    intro k
    have hdigits : Nat.ofDigitChars 10 (Text.ofNat k) 0 = k :=
      Nat.ofDigitChars_toDigits (by decide) (by decide)
    rw [scratchNumber, Nat.ofDigitChars_append, Nat.ofDigitChars_replicate_zero, Nat.mul_zero,
      hdigits]
  intro j k heq
  rw [← hvalue j, ← hvalue k, heq]

theorem scratchName_injective (kind : Text) : Function.Injective (scratchName kind) := by
  intro j k heq
  rw [scratchName_eq, scratchName_eq] at heq
  have hnumber := List.append_cancel_left (List.append_cancel_left heq)
  exact scratchNumber_injective (List.cons.inj hnumber).2

/-- Since only so many names are taken, one is free. -/
theorem exists_freshScratchName (taken : List Text) (kind : Text) :
    ∃ k, freshScratchName taken kind = scratchName kind k ∧ scratchName kind k ∉ taken := by
  cases hfind : ((List.range (taken.length + 1)).map (scratchName kind)).find?
      (!taken.contains ·) with
  | some name =>
    obtain ⟨k, -, rfl⟩ := List.mem_map.1 (List.mem_of_find?_eq_some hfind)
    refine ⟨k, by rw [freshScratchName, hfind, Option.getD_some], ?_⟩
    simpa using List.find?_some hfind
  | none =>
    -- More names than there are entries of `taken` would all be among these.
    have hsubset : (List.range (taken.length + 1)).map (scratchName kind) ⊆ taken := by
      intro name hname
      simpa using List.find?_eq_none.1 hfind name hname
    have hnodup : ((List.range (taken.length + 1)).map (scratchName kind)).Nodup :=
      List.Nodup.map (scratchName_injective kind) List.nodup_range
    have hlength := (List.subperm_of_subset hnodup hsubset).length_le
    rw [List.length_map, List.length_range] at hlength
    omega

theorem freshScratchName_not_mem (taken : List Text) (kind : Text) :
    freshScratchName taken kind ∉ taken := by
  obtain ⟨k, hname, hmem⟩ := exists_freshScratchName taken kind
  rwa [hname]

/-- The name of a scratch folder is one name. -/
theorem isPlaceName_freshScratchName {kind : Text} (hkind : '/' ∉ kind) (taken : List Text) :
    IsPlaceName (freshScratchName taken kind) := by
  obtain ⟨k, hname, -⟩ := exists_freshScratchName taken kind
  rw [hname]
  have hlength : 2 < (scratchName kind k).length := by
    have hstart : "jar-viewer-".toList.length = 11 := by decide
    rw [scratchName_eq, List.length_append, hstart]
    exact Nat.lt_add_right _ (by decide)
  refine ⟨⟨?_, ?_, ?_⟩, ?_⟩
  · rintro hnil
    simp [hnil] at hlength
  · rintro hdot
    simp [hdot] at hlength
  · rintro hdots
    simp [hdots] at hlength
  · intro hslash
    rw [scratchName_eq, List.mem_append, List.mem_append, List.mem_cons, scratchNumber,
      List.mem_append] at hslash
    rcases hslash with hslash | hslash | hslash | hslash | hslash
    · exact absurd hslash (by decide)
    · exact hkind hslash
    · cases hslash
    · have hzero := List.eq_of_mem_replicate hslash
      cases hzero
    · have hdigit := Nat.isDigit_of_mem_toDigits (by decide) (by decide) hslash
      cases hdigit

theorem at?_freshScratch (m : Machine) (kind : Text) :
    m.files.names.at? (m.freshScratch kind) = none := by
  rw [Machine.freshScratch, NameTree.at?_concat]
  cases hscratch : m.files.names.at? m.scratch with
  | none => rfl
  | some t =>
    rw [Option.bind_some, List.lookup_eq_none_iff]
    intro entry hentry
    have hnot := freshScratchName_not_mem (m.files.namesIn m.scratch) kind
    rw [bne_iff_ne]
    intro heq
    refine hnot ?_
    rw [heq, Files.namesIn, hscratch]
    exact List.mem_map_of_mem hentry

/-- Nothing lies at the place of a new scratch folder, or beneath it. -/
theorem get?_freshScratch (m : Machine) (kind : Text) (rest : Place) :
    m.files.get? (m.freshScratch kind ++ rest) = none :=
  Files.get?_beneath (at?_freshScratch m kind)

/-- The path of the scratch area names it without links and dots. -/
structure Machine.HasRealScratch (m : Machine) : Prop where
  names : ∀ name ∈ m.scratch, IsPlaceName name
  noLink : ∀ place, place <+: m.scratch → ∀ target, m.files.get? place ≠ some (.link target)

theorem Machine.HasRealScratch.isPlaceName_freshScratch {m : Machine} (h : m.HasRealScratch)
    {kind : Text} (hkind : '/' ∉ kind) : ∀ name ∈ m.freshScratch kind, IsPlaceName name := by
  intro name hname
  rcases List.mem_append.1 hname with hname | hname
  · exact h.names name hname
  · rw [List.mem_singleton.1 hname]
    exact isPlaceName_freshScratchName hkind _

/-- The way to a place in a new scratch folder is on the way to the scratch area until it is in the
folder. -/
theorem Machine.HasRealScratch.prefix_or_prefix_follow {m : Machine} (h : m.HasRealScratch)
    {kind : Text} (hkind : '/' ∉ kind) {names front : List Text}
    (hin : staysInside 0 names = true) (hfront : front <+: [] :: m.freshScratch kind ++ names) :
    Place.follow [] front <+: m.scratch ∨ m.freshScratch kind <+: Place.follow [] front := by
  have hown : ∀ name ∈ m.freshScratch kind, IsOwnName name := fun name hname =>
    (h.isPlaceName_freshScratch hkind name hname).toIsOwnName
  rcases List.prefix_cons_iff.1 hfront with rfl | ⟨way, rfl, hway⟩
  · exact .inl List.nil_prefix
  · rw [Place.follow_cons]
    show Place.follow [] way <+: m.scratch ∨ m.freshScratch kind <+: Place.follow [] way
    rcases List.prefix_or_prefix_of_prefix hway (List.prefix_append _ names) with
      hbefore | ⟨inner, rfl⟩
    · rw [Place.follow_of_isOwnName fun name hname => hown name (hbefore.subset hname),
        List.nil_append]
      rcases List.prefix_concat_iff.1 hbefore with heq | hbefore
      · exact .inr (heq ▸ List.prefix_rfl)
      · exact .inl hbefore
    · obtain ⟨back, rfl⟩ := (List.prefix_append_right_inj _).1 hway
      obtain ⟨inside, hinside⟩ := follow_of_staysInside (m.freshScratch kind) []
        (staysInside_of_append hin)
      rw [List.append_nil] at hinside
      rw [Place.follow_append, Place.follow_of_isOwnName hown, List.nil_append, hinside]
      exact .inr (List.prefix_append _ _)

end JarLens
