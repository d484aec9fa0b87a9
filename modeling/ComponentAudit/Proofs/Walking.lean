import Mathlib
import ComponentAudit.Proofs.Paths

/-!
# The walk finds what its rules select

A walk passes over entries on its way down, so that it never comes by what is below them. Told from the whole path of a file,
without the way that leads to it, it yields what is left of the full listing of the tree: the files of a kind that is checked
that have no directory passed over above them and no path on their way that a glob matches (`Walker.walk_eq_selection`).
-/

namespace ComponentAudit

open Text FileTree

/-! ## Kinds of names -/

namespace FileKind

/-- The kind of a file by its name. -/
def ofFileName? (name : EntryName) : Option FileKind :=
  (Path.extensionOf? name).bind ofExtension?

/-- The kind of the file that some names lead to. -/
def ofNames? (names : List EntryName) : Option FileKind :=
  names.getLast?.bind ofFileName?

theorem ofPath?_div (p : Path) {name : EntryName} (h : ValidName name) :
    ofPath? (p / Path.mk name) = ofFileName? name := by
  rw [ofPath?, Path.extension?, Path.fileName?_div p h, Option.bind_some]
  rfl

end FileKind

namespace Walker

variable {w : Walker} {files t u : FileTree} {root names : List EntryName} {kind : FileKind}

/-! ## What a walk selects -/

/-- No directory above the entry that some names lead to is passed over for its name, and nothing on the way for its path,
the entry included. -/
def Clears (w : Walker) (names : List EntryName) : Prop :=
  (∀ name ∈ names.dropLast, lossy name ∉ w.excludedDirs) ∧
    ∀ before ∈ names.inits, before ≠ [] → ∀ g ∈ w.globs, g.matches (.ofParts before) = false

instance (w : Walker) (names : List EntryName) : Decidable (w.Clears names) :=
  inferInstanceAs (Decidable (_ ∧ _))

/-- A file of a kind that is checked, by its names and its kind. -/
def checked? (e : List EntryName × FileTree) : Option (List EntryName × FileKind) :=
  if e.2.isPlainFile then (FileKind.ofNames? e.1).map fun kind => (e.1, kind) else none

/-- The files of a tree that are of a kind that is checked and not passed over, out of the listing of the whole tree. -/
def selection (w : Walker) (t : FileTree) : List (List EntryName × FileKind) :=
  ((t.listing (fun _ _ => false) []).filter fun e => w.Clears e.1).filterMap checked?

/-- Some names lead to a file of a kind that is checked and not passed over. -/
structure Selects (w : Walker) (t : FileTree) (names : List EntryName) (kind : FileKind) : Prop where
  file : ∃ u, t.at? names = some u ∧ u.isPlainFile = true
  kind : FileKind.ofNames? names = some kind
  clears : w.Clears names

theorem checked?_eq_some {e : List EntryName × FileTree} :
    checked? e = some (names, kind) ↔ e.1 = names ∧ e.2.isPlainFile = true ∧ FileKind.ofNames? names = some kind := by
  unfold checked?
  split
  · rename_i hfile
    rw [Option.map_eq_some_iff]
    constructor
    · rintro ⟨k, hk, heq⟩
      obtain ⟨rfl, rfl⟩ := Prod.mk.inj heq
      exact ⟨rfl, hfile, hk⟩
    · rintro ⟨rfl, -, hk⟩
      exact ⟨kind, hk, rfl⟩
  · rename_i hfile
    simp [hfile]

/-- What is checked of a listing. -/
theorem mem_filterMap_checked? {listed : List (List EntryName × FileTree)} :
    (names, kind) ∈ listed.filterMap checked? ↔
      FileKind.ofNames? names = some kind ∧ ∃ u, (names, u) ∈ listed ∧ u.isPlainFile = true := by
  rw [List.mem_filterMap]
  constructor
  · rintro ⟨⟨path, u⟩, hmem, he⟩
    obtain ⟨rfl, hfile, hkind⟩ := checked?_eq_some.1 he
    exact ⟨hkind, u, hmem, hfile⟩
  · rintro ⟨hkind, u, hmem, hfile⟩
    exact ⟨(names, u), hmem, checked?_eq_some.2 ⟨rfl, hfile, hkind⟩⟩

/-- What is checked of an ascending listing ascends. -/
theorem pairwise_filterMap_checked? {listed : List (List EntryName × FileTree)}
    (h : listed.Pairwise fun a b => a.1 < b.1) : (listed.filterMap checked?).Pairwise fun a b => a.1 < b.1 := by
  refine h.filterMap checked? ?_
  rintro e e' hlt ⟨names, kind⟩ he ⟨names', kind'⟩ he'
  obtain ⟨rfl, -⟩ := checked?_eq_some.1 he
  obtain ⟨rfl, -⟩ := checked?_eq_some.1 he'
  exact hlt

/-- Nothing of an empty way is a file of a kind. -/
theorem ne_nil_of_ofNames? (h : FileKind.ofNames? names = some kind) : names ≠ [] := by
  rintro rfl
  cases h

/-- The whole listing holds all that names lead to. -/
theorem leadsTo_whole : LeadsTo (fun _ _ => false) [] t names u ↔ names ≠ [] ∧ t.at? names = some u :=
  ⟨fun h => ⟨h.nonempty, h.found⟩, fun h => ⟨h.1, h.2, fun _ _ _ _ _ => rfl⟩⟩

theorem mem_selection (ht : t.Sound) : (names, kind) ∈ w.selection t ↔ w.Selects t names kind := by
  rw [selection, mem_filterMap_checked?]
  constructor
  · rintro ⟨hkind, u, hu, hfile⟩
    obtain ⟨hlisted, hclears⟩ := List.mem_filter.1 hu
    obtain ⟨rest, rfl, hrest⟩ := (mem_listing ht).1 hlisted
    exact ⟨⟨u, hrest.found, hfile⟩, hkind, of_decide_eq_true hclears⟩
  · rintro ⟨⟨u, hfound, hfile⟩, hkind, hclears⟩
    have hlisted := (mem_listing ht).2 ⟨names, rfl, leadsTo_whole.2 ⟨ne_nil_of_ofNames? hkind, hfound⟩⟩
    exact ⟨hkind, u, List.mem_filter.2 ⟨hlisted, decide_eq_true hclears⟩, hfile⟩

theorem pairwise_selection (ht : t.Sound) : (w.selection t).Pairwise fun a b => a.1 < b.1 :=
  pairwise_filterMap_checked? ((pairwise_listing ht).filter _)

/-! ## What a walk passes over on its way -/

/-- A name is compared as people read it. -/
theorem any_eq_decodeLossy (dirs : List String) (name : EntryName) :
    (dirs.any fun dir => dir.toList = Utf8.decodeLossy name) = decide (lossy name ∈ dirs) := by
  rw [Bool.eq_iff_iff, List.any_eq_true, decide_eq_true_iff]
  constructor
  · rintro ⟨dir, hdir, h⟩
    rwa [lossy, ← of_decide_eq_true h, String.ofList_toList]
  · exact fun h => ⟨_, h, decide_eq_true String.toList_ofList⟩

/-- Without the rules of Git, an entry is passed over for its name or its path only. -/
theorem skips_eq_false (hgit : w.gitIgnore = false) : w.skips files root names u = false ↔
    (u.isDirectory = true → ∀ name, names.getLast? = some name → lossy name ∉ w.excludedDirs) ∧
      ∀ g ∈ w.globs, g.matches (.ofParts names) = false := by
  rw [skips, hgit, Bool.false_and, Bool.or_false, excludes, Bool.or_eq_false_iff, Bool.and_eq_false_imp, List.any_eq_false]
  simp [Option.any_eq_false, any_eq_decodeLossy]

theorem isDirectory_of_isPlainFile (h : u.isPlainFile = true) : u.isDirectory = false := by
  cases u with
  | closed d => simpa [isPlainFile, isDirectory] using h
  | directory entries => cases h
  | _ => rfl

/-- A walk that comes by something has passed over nothing on the way to it. -/
theorem clears_of_leadsTo (hgit : w.gitIgnore = false) (h : LeadsTo (w.skips files root) [] t names u) :
    w.Clears names := by
  constructor
  · intro name hname
    obtain ⟨above, entries, hprefix, hdirectory⟩ := exists_directory_of_mem_dropLast hname h.found
    have hskip := h.kept _ (List.concat_ne_nil _ _) hprefix _ hdirectory
    exact ((skips_eq_false hgit).1 hskip).1 rfl name List.getLast?_concat
  · intro before hbefore hne
    obtain ⟨rest, rfl⟩ := (List.mem_inits _ _).1 hbefore
    obtain ⟨v, hv, -⟩ := Option.bind_eq_some_iff.1 ((at?_append t before rest).symm.trans h.found)
    exact ((skips_eq_false hgit).1 (h.kept before hne (List.prefix_append _ _) v hv)).2

/-- A walk comes by a file where nothing on the way to the file is to be passed over. -/
theorem leadsTo_of_clears (hgit : w.gitIgnore = false) (hne : names ≠ []) (hfound : t.at? names = some u)
    (hfile : u.isPlainFile = true) (hclears : w.Clears names) : LeadsTo (w.skips files root) [] t names u := by
  refine ⟨hne, hfound, fun before hbefore_ne hbefore v hv => (skips_eq_false hgit).2 ⟨fun hdirectory name hlast => ?_,
    hclears.2 before ((List.mem_inits _ _).2 hbefore) hbefore_ne⟩⟩
  obtain ⟨rest, rfl⟩ := hbefore
  by_cases hrest : rest = []
  · -- The way ends at the file, which is no directory and may have any name.
    rw [hrest, List.append_nil, hv] at hfound
    cases hfound
    rw [isDirectory_of_isPlainFile hfile] at hdirectory
    cases hdirectory
  · refine hclears.1 name ?_
    rw [List.dropLast_append_of_ne_nil hrest]
    exact List.mem_append_left _ (List.mem_of_getLast? hlast)

/-- What a walk comes by and checks is its selection. -/
theorem checked_listing (hgit : w.gitIgnore = false) (ht : t.Sound) :
    (t.listing (w.skips files root) []).filterMap checked? = w.selection t := by
  have hsame : ∀ e, e ∈ (t.listing (w.skips files root) []).filterMap checked? ↔ e ∈ w.selection t := by
    rintro ⟨names, kind⟩
    rw [mem_selection ht, mem_filterMap_checked?]
    constructor
    · rintro ⟨hkind, u, hu, hfile⟩
      obtain ⟨rest, rfl, hrest⟩ := (mem_listing ht).1 hu
      exact ⟨⟨u, hrest.found, hfile⟩, hkind, clears_of_leadsTo hgit hrest⟩
    · rintro ⟨⟨u, hfound, hfile⟩, hkind, hclears⟩
      have hway : LeadsTo (w.skips files root) [] t names u :=
        leadsTo_of_clears hgit (ne_nil_of_ofNames? hkind) hfound hfile hclears
      exact ⟨hkind, u, (mem_listing ht).2 ⟨names, rfl, hway⟩, hfile⟩
  exact (pairwise_filterMap_checked? (pairwise_listing ht)).eq_of_mem_iff (pairwise_selection ht) hsame

/-! ## The paths that a walk yields -/

theorem pathOf_eq_div (w : Walker) (hne : names ≠ []) (h : ∀ name ∈ names, ValidName name) :
    w.pathOf names = w.root / Path.ofParts names :=
  Path.foldl_div w.root hne h

theorem ofPath?_pathOf (w : Walker) (hne : names ≠ []) (h : ∀ name ∈ names, ValidName name) :
    FileKind.ofPath? (w.pathOf names) = FileKind.ofNames? names := by
  obtain ⟨before, last, rfl⟩ := (List.eq_nil_or_concat' names).resolve_left hne
  have hpath : w.pathOf (before ++ [last]) = w.pathOf before / Path.mk last := List.foldl_concat ..
  rw [hpath, FileKind.ofPath?_div _ (h last (List.mem_append_right _ (List.mem_singleton_self _))), FileKind.ofNames?,
    List.getLast?_concat, Option.bind_some]

/-- Names that may be entries' are known from their path below the root. -/
theorem names_inj {p : Path} {names names' : List EntryName} (hne : names ≠ []) (hne' : names' ≠ [])
    (h : ∀ name ∈ names, ValidName name) (h' : ∀ name ∈ names', ValidName name)
    (hpath : p / Path.ofParts names = p / Path.ofParts names') : names = names' := by
  have hparts : Path.ofParts names = Path.ofParts names' :=
    Path.div_inj (Path.isAbsolute_ofParts hne h) (Path.isAbsolute_ofParts hne' h') hpath
  have hjoin : join Path.slash names = join Path.slash names' := congrArg Path.bytes hparts
  exact join_inj hne hne' (fun name hname => (h name hname).noSlash) (fun name hname => (h' name hname).noSlash) hjoin

/-- What comes of visiting an entry of a sound tree: a candidate, if it is checked. -/
theorem visit?_pathOf (w : Walker) (hu : u.Sound) (hne : names ≠ []) (h : ∀ name ∈ names, ValidName name) :
    w.visit? (w.pathOf names) u =
      (checked? (names, u)).map fun f => .ok ⟨w.root / Path.ofParts f.1, f.2⟩ := by
  have hvisit : w.visit? (w.pathOf names) u = (candidate? (w.pathOf names) u).map .ok := by
    cases hu <;> rfl
  rw [hvisit, candidate?, checked?, ofPath?_pathOf w hne h]
  split
  · rw [Option.map_map, Option.map_map, pathOf_eq_div w hne h]
    rfl
  · rfl

/-- Where Git ignores nothing, a walk from a directory yields its selection: of the whole listing of the tree below the root,
the regular files of a kind that is checked, with no directory above them passed over for its name and no path on their way
passed over for a glob. They ascend by the bytes of their names, first name first, and each is yielded once. The root is not
passed over for its name, and what a link leads to is not below the root. -/
theorem walk_eq_selection (w : Walker) (files : FileTree) {top : List EntryName} {entries : List (EntryName × FileTree)}
    (hgit : w.gitIgnore = false) (hroot : files.resolve w.root = .ok (top, .directory entries))
    (hsound : (directory entries).Sound) :
    w.walk files = (w.selection (directory entries)).map (fun f =>
        .ok ⟨w.root / Path.ofParts f.1, f.2⟩) ∧
      (∀ names kind, (names, kind) ∈ w.selection (directory entries) ↔ w.Selects (directory entries) names kind) ∧
      ((w.selection (directory entries)).Pairwise fun a b => a.1 < b.1) ∧
      (w.walk files).Nodup := by
  have hwalk : w.walk files = (w.selection (directory entries)).map (fun f =>
      .ok ⟨w.root / Path.ofParts f.1, f.2⟩) := by
    have hbelow : w.walk files = w.below files top (directory entries) := by
      rw [walk, hroot]
      rfl
    rw [hbelow, below, ← checked_listing hgit hsound, List.map_filterMap]
    refine List.filterMap_congr fun e he => ?_
    obtain ⟨rest, hpath, hrest⟩ := (mem_listing hsound).1 he
    obtain ⟨hu, hnames⟩ := hsound.of_at? hrest.found
    rw [List.nil_append] at hpath
    subst hpath
    exact visit?_pathOf w hu hrest.nonempty hnames
  refine ⟨hwalk, fun names kind => mem_selection hsound, pairwise_selection hsound, ?_⟩
  rw [hwalk]
  refine List.Nodup.map_on ?_ (pairwise_selection hsound).nodup
  rintro ⟨names, kind⟩ h ⟨names', kind'⟩ h' heq
  obtain ⟨hpath, rfl⟩ := Candidate.mk.inj (Except.ok.inj heq)
  have hvalid : ∀ {names kind}, (names, kind) ∈ w.selection (directory entries) →
      names ≠ [] ∧ ∀ name ∈ names, ValidName name := by
    intro names kind h
    obtain ⟨⟨u, hfound, -⟩, hkind, -⟩ := (mem_selection hsound).1 h
    exact ⟨ne_nil_of_ofNames? hkind, (hsound.of_at? hfound).2⟩
  rw [names_inj (hvalid h).1 (hvalid h').1 (hvalid h).2 (hvalid h').2 hpath]

/-- What is below the root of a project: a directory with a file that is named like a directory to be passed over, such a
directory, and links to both. -/
def sampleEntries : List (EntryName × FileTree) :=
  [("link.go", .link ⟨"a/build.go"⟩),
    ("build.go", .directory [("z.go", .file [])]),
    ("link", .link ⟨"a"⟩),
    ("a", .directory [("build.go", .file []), ("a_templ.go", .file []), ("b.templ", .closed false)])]

/-- A walk that passes over what its own root is named like. -/
def sampleWalker : Walker where
  root := ⟨"/build.go"⟩
  excludedDirs := ["build.go"]
  globs := (Glob.parse "**/*_templ.go").toOption.toList

theorem sound_sampleEntries : (directory sampleEntries).Sound := by
  have hbuild : (directory [("z.go", .file [])]).Sound :=
    .directory (by decide) (by decide) (List.forall_mem_singleton.2 (.file _))
  have ha : (directory
      [("build.go", .file []), ("a_templ.go", .file []), ("b.templ", .closed false)]).Sound := by
    refine .directory (by decide) (by decide) ?_
    simp only [List.forall_mem_cons]
    exact ⟨.file _, .file _, .closedFile, nofun⟩
  refine .directory (by decide) (by decide) ?_
  simp only [sampleEntries, List.forall_mem_cons]
  exact ⟨.link _, hbuild, .link _, ha, nofun⟩

theorem selection_sample : sampleWalker.selection (directory sampleEntries) =
    ([(["a", "b.templ"], .templ), (["a", "build.go"], .go)] : List (List EntryName × FileKind)) := by
  cbv

/-- Of the sample, the walk yields the two files of the first directory that no glob matches. -/
theorem walk_eq_selection_sample :
    sampleWalker.gitIgnore = false ∧
    (directory [("build.go", directory sampleEntries)]).resolve sampleWalker.root =
      .ok (["build.go"], directory sampleEntries) ∧
    (directory sampleEntries).Sound ∧
    sampleWalker.walk (directory [("build.go", directory sampleEntries)]) =
      [.ok ⟨⟨"/build.go/a/b.templ"⟩, .templ⟩, .ok ⟨⟨"/build.go/a/build.go"⟩, .go⟩] ∧
    ∀ names kind, (names, kind) ∈ sampleWalker.selection (directory sampleEntries) ↔
      sampleWalker.Selects (directory sampleEntries) names kind := by
  have hroot : (directory [("build.go", directory sampleEntries)]).resolve sampleWalker.root =
      .ok (["build.go"], directory sampleEntries) := by
    cbv
  obtain ⟨hwalk, hselects, -, -⟩ := walk_eq_selection sampleWalker _ rfl hroot sound_sampleEntries
  refine ⟨rfl, hroot, sound_sampleEntries, ?_, hselects⟩
  rw [hwalk, selection_sample]
  rfl

end Walker

end ComponentAudit
