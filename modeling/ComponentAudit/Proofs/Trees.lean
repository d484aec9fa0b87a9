import ComponentAudit.Proofs.ByteOrder
import ComponentAudit.Walk

/-!
# What is below a tree

The listing of a tree is made on the way down, entry by entry, and leaves out what is below an entry that is skipped. Seen
from outside, it holds what names lead to, as long as no entry on their way is skipped (`FileTree.Named.mem_listing`), and it
ascends by the names, first name first (`FileTree.Named.pairwise_listing`).
-/

namespace ComponentAudit

/-- A name that an entry of a directory may have. -/
structure ValidName (name : EntryName) : Prop where
  nonempty : name ≠ []
  noSlash : Path.slash ∉ name
  notHere : name ≠ [Path.dot]
  notParent : name ≠ [Path.dot, Path.dot]

instance (name : EntryName) : Decidable (ValidName name) :=
  decidable_of_iff (name ≠ [] ∧ Path.slash ∉ name ∧ name ≠ [Path.dot] ∧ name ≠ [Path.dot, Path.dot])
    ⟨fun ⟨hnonempty, hnoSlash, hnotHere, hnotParent⟩ => ⟨hnonempty, hnoSlash, hnotHere, hnotParent⟩,
      fun h => ⟨h.nonempty, h.noSlash, h.notHere, h.notParent⟩⟩

namespace FileTree

/-- A tree as a disk holds it, of files, links and directories that can be opened. The entries of a directory have names
that differ. -/
inductive Sound : FileTree → Prop where
  | file (bytes : List UInt8) : Sound (file bytes)
  | closedFile : Sound (closed false)
  | link (target : Path) : Sound (link target)
  | directory {entries : List (EntryName × FileTree)} (distinct : (entries.map Prod.fst).Nodup)
      (named : ∀ e ∈ entries, ValidName e.1) (below : ∀ e ∈ entries, Sound e.2) : Sound (directory entries)

/-- A tree as a disk holds it, of files, links and directories, any of which may be closed. The entries of a directory have
names that differ. -/
inductive Named : FileTree → Prop where
  | file (bytes : List UInt8) : Named (file bytes)
  | closed (isDirectory : Bool) : Named (closed isDirectory)
  | link (target : Path) : Named (link target)
  | directory {entries : List (EntryName × FileTree)} (distinct : (entries.map Prod.fst).Nodup)
      (named : ∀ e ∈ entries, ValidName e.1) (below : ∀ e ∈ entries, Named e.2) : Named (directory entries)

theorem Sound.toNamed {t : FileTree} (h : t.Sound) : t.Named := by
  induction h with
  | file bytes => exact .file bytes
  | closedFile => exact .closed false
  | link target => exact .link target
  | directory hdistinct hnamed _ ih => exact .directory hdistinct hnamed ih

theorem mem_entries_of_entry? {t u : FileTree} {name : EntryName} (h : t.entry? name = some u) : (name, u) ∈ t.entries := by
  obtain ⟨others, others', hentries, -⟩ := List.lookup_eq_some_iff.1 h
  rw [hentries]
  exact List.mem_append_right _ (List.mem_cons_self ..)

/-- Names that lead to something are names that entries may have. -/
theorem Named.of_at? {t s : FileTree} {names : List EntryName} (ht : t.Named) (h : t.at? names = some s) :
    ∀ name ∈ names, ValidName name := by
  induction names generalizing t with
  | nil => exact fun _ hname => absurd hname List.not_mem_nil
  | cons first rest ih =>
    obtain ⟨u, hentry, hrest⟩ := Option.bind_eq_some_iff.1 h
    have hu := mem_entries_of_entry? hentry
    cases ht with
    | @directory entries hdistinct hnamed hbelow => exact List.forall_mem_cons.2 ⟨hnamed _ hu, ih (hbelow _ hu) hrest⟩
    | _ => exact absurd hu List.not_mem_nil

/-- What names lead to in a sound tree is sound, and they are names that entries may have. -/
theorem Sound.of_at? {t s : FileTree} {names : List EntryName} (ht : t.Sound) (h : t.at? names = some s) :
    s.Sound ∧ ∀ name ∈ names, ValidName name := by
  refine ⟨?_, ht.toNamed.of_at? h⟩
  induction names generalizing t with
  | nil =>
    cases h
    exact ht
  | cons first rest ih =>
    obtain ⟨u, hentry, hrest⟩ := Option.bind_eq_some_iff.1 h
    have hu := mem_entries_of_entry? hentry
    cases ht with
    | @directory entries hdistinct hnamed hbelow => exact ih (hbelow _ hu) hrest
    | _ => exact absurd hu List.not_mem_nil

/-- Names lead on from where the first of them lead. -/
theorem at?_append (t : FileTree) (before rest : List EntryName) :
    t.at? (before ++ rest) = (t.at? before).bind (·.at? rest) := by
  induction before generalizing t with
  | nil => rfl
  | cons name before ih =>
    rw [List.cons_append, at?, at?, Option.bind_assoc]
    exact Option.bind_congr fun u _ => ih u

/-- Names lead on from a directory only. -/
theorem exists_directory_of_at?_append {t s : FileTree} {before rest : List EntryName} (hrest : rest ≠ [])
    (h : t.at? (before ++ rest) = some s) : ∃ entries, t.at? before = some (directory entries) := by
  rw [at?_append, Option.bind_eq_some_iff] at h
  obtain ⟨u, hu, hfound⟩ := h
  obtain ⟨name, rest, rfl⟩ := List.exists_cons_of_ne_nil hrest
  cases u with
  | directory entries => exact ⟨entries, hu⟩
  | _ => exact absurd hfound (by simp [at?, entry?, FileTree.entries])

/-- Each of the names before the last one is that of a directory on the way. -/
theorem exists_directory_of_mem_dropLast {t s : FileTree} {names : List EntryName} {name : EntryName}
    (hname : name ∈ names.dropLast) (h : t.at? names = some s) :
    ∃ above entries, above ++ [name] <+: names ∧ t.at? (above ++ [name]) = some (directory entries) := by
  have hne : names ≠ [] := by
    rintro rfl
    exact absurd hname List.not_mem_nil
  obtain ⟨above, between, hsplit⟩ := List.append_of_mem hname
  have hnames : (above ++ [name]) ++ (between ++ [names.getLast hne]) = names := by
    rw [← List.append_assoc, List.append_assoc above, List.singleton_append, ← hsplit, List.dropLast_concat_getLast]
  obtain ⟨entries, hdirectory⟩ := exists_directory_of_at?_append (List.concat_ne_nil _ _) (hnames ▸ h)
  exact ⟨above, entries, ⟨_, hnames⟩, hdirectory⟩

/-! ## Entries in the order of their names -/

section InOrder

variable {α β : Type} {named : List (EntryName × α)}

theorem mem_inOrder {e : EntryName × α} : e ∈ inOrder named ↔ e ∈ named :=
  List.mem_mergeSort

/-- What belongs to the names may be made before or after they are put in order. -/
theorem inOrder_map (f : EntryName × α → β) :
    inOrder (named.map fun e => (e.1, f e)) = (inOrder named).map fun e => (e.1, f e) :=
  (List.map_mergeSort (f := fun e : EntryName × α => (e.1, f e)) fun _ _ _ _ => rfl).symm

/-- Names that differ ascend when they are put in order. -/
theorem pairwise_inOrder (h : (named.map Prod.fst).Nodup) : (inOrder named).Pairwise fun a b => a.1 < b.1 := by
  have hsorted : (inOrder named).Pairwise fun a b => ¬b.1 < a.1 := by
    have htrans : ∀ a b c : EntryName × α, (!decide (b.1 < a.1)) = true → (!decide (c.1 < b.1)) = true →
        (!decide (c.1 < a.1)) = true := by
      intro a b c hab hbc
      simp only [Bool.not_eq_true', decide_eq_false_iff_not, not_lt] at hab hbc ⊢
      exact hab.trans hbc
    have htotal : ∀ a b : EntryName × α, ((!decide (b.1 < a.1)) || !decide (a.1 < b.1)) = true := by
      intro a b
      simp only [Bool.or_eq_true, Bool.not_eq_true', decide_eq_false_iff_not, not_lt]
      exact le_total a.1 b.1
    exact (List.pairwise_mergeSort htrans htotal named).imp fun hab => by simpa using hab
  have hdistinct : (inOrder named).Pairwise fun a b => a.1 ≠ b.1 := by
    rw [← List.pairwise_map (f := Prod.fst)]
    exact ((List.mergeSort_perm named _).map Prod.fst).nodup_iff.2 h
  exact hsorted.imp₂ (fun a b hle hne => lt_of_le_of_ne (not_lt.1 hle) hne) hdistinct

end InOrder

/-! ## What names lead to -/

variable {skip : List EntryName → FileTree → Bool} {base rest : List EntryName} {t s : FileTree}

/-- Names lead down from a tree to something, and nothing on the way is skipped, the end included. The tree is known by the
names that lead to it. -/
structure LeadsTo (skip : List EntryName → FileTree → Bool) (base : List EntryName) (t : FileTree) (rest : List EntryName)
    (s : FileTree) : Prop where
  nonempty : rest ≠ []
  found : t.at? rest = some s
  kept : ∀ before, before ≠ [] → before <+: rest → ∀ u, t.at? before = some u → skip (base ++ before) u = false

/-- Nothing is below what is no directory. -/
theorem not_leadsTo_of_entries_nil (h : t.entries = []) : ¬LeadsTo skip base t rest s := by
  rintro ⟨hne, hfound, -⟩
  cases rest with
  | nil => exact hne rfl
  | cons name rest =>
    rw [at?, entry?, h] at hfound
    cases hfound

section Directory

variable {entries : List (EntryName × FileTree)} {name : EntryName}

/-- Where the names of entries differ, each name finds its entry. -/
theorem lookup_eq_some_iff_mem (hdistinct : (entries.map Prod.fst).Nodup) :
    entries.lookup name = some s ↔ (name, s) ∈ entries := by
  induction entries with
  | nil => simp
  | cons e entries ih =>
    obtain ⟨other, u⟩ := e
    obtain ⟨hfirst, hrest⟩ := List.nodup_cons.1 hdistinct
    rw [List.lookup_cons, List.mem_cons, Prod.mk.injEq]
    by_cases hname : name = other
    · subst hname
      have hnot : (name, s) ∉ entries := fun h => hfirst (List.mem_map.2 ⟨_, h, rfl⟩)
      simp [hnot, eq_comm]
    · rw [beq_false_of_ne hname]
      simp [hname, ih hrest]

/-- The first of some names is that of an entry, and the others lead on from there. -/
theorem at?_directory_eq_some (hdistinct : (entries.map Prod.fst).Nodup) :
    (directory entries).at? (name :: rest) = some s ↔ ∃ u, (name, u) ∈ entries ∧ u.at? rest = some s := by
  have hentry : ∀ u, FileTree.entry? (directory entries) name = some u ↔ (name, u) ∈ entries :=
    fun u => lookup_eq_some_iff_mem hdistinct
  rw [at?, Option.bind_eq_some_iff]
  simp only [hentry]

/-- What an entry leads on to. -/
theorem at?_directory_of_mem (hdistinct : (entries.map Prod.fst).Nodup) {u : FileTree} (hu : (name, u) ∈ entries) :
    (directory entries).at? (name :: rest) = u.at? rest := by
  have hentry : FileTree.entry? (directory entries) name = some u := (lookup_eq_some_iff_mem hdistinct).2 hu
  rw [at?, hentry, Option.bind_some]

/-- The way down from a directory starts with an entry that is not skipped, and ends there or goes on from there. -/
theorem leadsTo_directory (hdistinct : (entries.map Prod.fst).Nodup) :
    LeadsTo skip base (directory entries) (name :: rest) s ↔
      ∃ u, (name, u) ∈ entries ∧ skip (base ++ [name]) u = false ∧
        (rest = [] ∧ s = u ∨ LeadsTo skip (base ++ [name]) u rest s) := by
  constructor
  · rintro ⟨-, hfound, hkept⟩
    obtain ⟨u, hu, hrest⟩ := (at?_directory_eq_some hdistinct).1 hfound
    have hat : ∀ before, (directory entries).at? (name :: before) = u.at? before :=
      fun before => at?_directory_of_mem hdistinct hu
    refine ⟨u, hu, hkept [name] (List.cons_ne_nil _ _) ⟨rest, rfl⟩ u (hat []), ?_⟩
    cases rest with
    | nil => exact Or.inl ⟨rfl, (Option.some.inj hrest).symm⟩
    | cons next rest =>
      refine Or.inr ⟨List.cons_ne_nil _ _, hrest, fun before hne hbefore v hv => ?_⟩
      rw [List.append_assoc]
      exact hkept (name :: before) (List.cons_ne_nil _ _) (List.cons_prefix_cons.2 ⟨rfl, hbefore⟩) v ((hat before).trans hv)
  · rintro ⟨u, hu, hskip, hend⟩
    have hat : ∀ before, (directory entries).at? (name :: before) = u.at? before :=
      fun before => at?_directory_of_mem hdistinct hu
    have hfound : u.at? rest = some s := by
      rcases hend with ⟨rfl, rfl⟩ | hrest
      · rfl
      · exact hrest.found
    refine ⟨List.cons_ne_nil _ _, (hat rest).trans hfound, fun before hne hbefore v hv => ?_⟩
    rcases List.prefix_cons_iff.1 hbefore with rfl | ⟨below, rfl, hbelow⟩
    · exact absurd rfl hne
    rw [hat] at hv
    cases below with
    | nil =>
      cases hv
      exact hskip
    | cons next below =>
      rcases hend with ⟨rfl, -⟩ | hrest
      · exact absurd (List.prefix_nil.1 hbelow) (List.cons_ne_nil _ _)
      · have hkept := hrest.kept (next :: below) (List.cons_ne_nil _ _) hbelow v hv
        rwa [List.append_assoc] at hkept

end Directory

/-! ## Listings -/

/-- What stands in a listing for an entry: itself and what is below it, unless it is skipped. -/
def listed (skip : List EntryName → FileTree → Bool) (base : List EntryName) (e : EntryName × FileTree) :
    List (List EntryName × FileTree) :=
  if skip (base ++ [e.1]) e.2 then [] else (base ++ [e.1], e.2) :: e.2.listing skip (base ++ [e.1])

theorem mem_listed {name : EntryName} {u : FileTree} {path : List EntryName} :
    (path, s) ∈ listed skip base (name, u) ↔
      skip (base ++ [name]) u = false ∧ (path = base ++ [name] ∧ s = u ∨ (path, s) ∈ u.listing skip (base ++ [name])) := by
  unfold listed
  split
  · rename_i hskip
    simp [hskip]
  · rename_i hskip
    simp [hskip]

/-- The listing of a directory: what stands for its entries, in the order of their names. -/
theorem listing_directory (skip : List EntryName → FileTree → Bool) (base : List EntryName)
    (entries : List (EntryName × FileTree)) :
    (directory entries).listing skip base = (inOrder entries).flatMap (listed skip base) := by
  have hlistings : listings skip base entries = entries.map fun e => (e.1, listed skip base e) := by
    induction entries with
    | nil => rfl
    | cons e entries ih =>
      obtain ⟨name, u⟩ := e
      rw [listings, ih]
      rfl
  rw [listing, hlistings, inOrder_map, List.flatMap_map]

/-- The listing of a tree holds what names lead to without coming by an entry that is skipped. -/
theorem Named.mem_listing (ht : t.Named) {path : List EntryName} :
    (path, s) ∈ t.listing skip base ↔ ∃ rest, path = base ++ rest ∧ LeadsTo skip base t rest s := by
  have nothing : ∀ {t : FileTree} {base path : List EntryName}, t.listing skip base = [] → t.entries = [] →
      ((path, s) ∈ t.listing skip base ↔ ∃ rest, path = base ++ rest ∧ LeadsTo skip base t rest s) := by
    intro t base path hlisting hentries
    rw [hlisting]
    exact iff_of_false List.not_mem_nil fun ⟨_, _, h⟩ => not_leadsTo_of_entries_nil hentries h
  induction ht generalizing base path with
  | file bytes => exact nothing (by rw [listing]) rfl
  | closed isDirectory => exact nothing (by rw [listing]) rfl
  | link target => exact nothing (by rw [listing]) rfl
  | @directory entries hdistinct hnamed hbelow ih =>
    rw [listing_directory, List.mem_flatMap]
    constructor
    · rintro ⟨⟨name, u⟩, hu, hlisted⟩
      rw [mem_inOrder] at hu
      obtain ⟨hskip, ⟨rfl, rfl⟩ | hlisted⟩ := mem_listed.1 hlisted
      · exact ⟨[name], rfl, (leadsTo_directory hdistinct).2 ⟨s, hu, hskip, Or.inl ⟨rfl, rfl⟩⟩⟩
      · obtain ⟨rest, rfl, hrest⟩ := (ih (name, u) hu).1 hlisted
        refine ⟨name :: rest, by rw [List.append_assoc]; rfl, ?_⟩
        exact (leadsTo_directory hdistinct).2 ⟨u, hu, hskip, Or.inr hrest⟩
    · rintro ⟨rest, rfl, hrest⟩
      obtain ⟨name, rest, rfl⟩ := List.exists_cons_of_ne_nil hrest.nonempty
      obtain ⟨u, hu, hskip, hend⟩ := (leadsTo_directory hdistinct).1 hrest
      refine ⟨(name, u), mem_inOrder.2 hu, mem_listed.2 ⟨hskip, ?_⟩⟩
      rcases hend with ⟨rfl, rfl⟩ | hrest
      · exact Or.inl ⟨rfl, rfl⟩
      · exact Or.inr ((ih (name, u) hu).2 ⟨rest, by rw [List.append_assoc]; rfl, hrest⟩)

/-- The names in the listing of a tree ascend, and what is below an entry comes before the next entry. -/
theorem Named.pairwise_listing (ht : t.Named) : (t.listing skip base).Pairwise fun a b => a.1 < b.1 := by
  induction ht generalizing base with
  | file bytes => rw [listing]; exact .nil
  | closed isDirectory => rw [listing]; exact .nil
  | link target => rw [listing]; exact .nil
  | @directory entries hdistinct hnamed hbelow ih =>
    -- All that stands for an entry has the name of the entry next.
    have hname : ∀ e ∈ entries, ∀ x ∈ listed skip base e, ∃ rest, x.1 = base ++ e.1 :: rest := by
      rintro ⟨name, u⟩ hu ⟨path, s⟩ hx
      obtain ⟨-, ⟨rfl, -⟩ | hlisted⟩ := mem_listed.1 hx
      · exact ⟨[], rfl⟩
      · obtain ⟨rest, rfl, -⟩ := (hbelow _ hu).mem_listing.1 hlisted
        exact ⟨rest, by rw [List.append_assoc]; rfl⟩
    rw [listing_directory, List.pairwise_flatMap]
    constructor
    · rintro ⟨name, u⟩ hu
      rw [mem_inOrder] at hu
      unfold listed
      split
      · exact .nil
      · refine List.pairwise_cons.2 ⟨?_, ih (name, u) hu⟩
        rintro ⟨path, s⟩ hlisted
        obtain ⟨rest, rfl, hrest⟩ := (hbelow _ hu).mem_listing.1 hlisted
        obtain ⟨next, rest, rfl⟩ := List.exists_cons_of_ne_nil hrest.nonempty
        have hlonger : base ++ [name] ++ [] < base ++ [name] ++ next :: rest :=
          List.append_left_lt (List.nil_lt_cons next rest)
        rwa [List.append_nil] at hlonger
    · refine (pairwise_inOrder hdistinct).imp_of_mem fun {e e'} he he' hlt x hx y hy => ?_
      obtain ⟨rest, hrest⟩ := hname e (mem_inOrder.1 he) x hx
      obtain ⟨rest', hrest'⟩ := hname e' (mem_inOrder.1 he') y hy
      rw [hrest, hrest']
      exact List.append_left_lt (List.cons_lt_cons_iff.2 (Or.inl hlt))

theorem mem_listing (ht : t.Sound) {path : List EntryName} :
    (path, s) ∈ t.listing skip base ↔ ∃ rest, path = base ++ rest ∧ LeadsTo skip base t rest s :=
  ht.toNamed.mem_listing

theorem pairwise_listing (ht : t.Sound) : (t.listing skip base).Pairwise fun a b => a.1 < b.1 :=
  ht.toNamed.pairwise_listing

end FileTree

end ComponentAudit
