import ComponentAudit.Proofs.Naming

/-!
# What Git ignores

Whether Git ignores an entry is decided by the rules of the directories on the way to it (`GitIgnore.ignores_iff`): in a file
the last rule that fits counts (`GitIgnore.Says`), and of the directories the nearest one with such a rule
(`GitIgnore.NearestSays`). But rules count within a repository only, and only those within the innermost one
(`GitIgnore.Ignored`). A walk that passes over what Git ignores visits what it visits otherwise, in the same order, without the
entries that are ignored and what is below them (`Walker.walk_gitIgnore`).
-/

namespace ComponentAudit

namespace GitIgnore

/-! ## What rules say -/

section Rules

variable {rules : List IgnoreRule} {path : Path} {isDirectory : Bool} {v : Verdict}

/-- What some rules say about a path below the directory of their file: the last one that fits decides. -/
def Says (rules : List IgnoreRule) (path : Path) (isDirectory : Bool) (v : Verdict) : Prop :=
  ∃ earlier r later, rules = earlier ++ r :: later ∧ r.fits path isDirectory = true ∧
    (∀ r' ∈ later, r'.fits path isDirectory = false) ∧ v = if r.keeps then .kept else .ignored

theorem verdict?_eq_some_iff : verdict? rules path isDirectory = some v ↔ Says rules path isDirectory v := by
  rw [verdict?, Option.map_eq_some_iff]
  constructor
  · rintro ⟨r, hfind, rfl⟩
    obtain ⟨hfits, later, earlier, hrules, hlater⟩ := List.find?_eq_some_iff_append.1 hfind
    refine ⟨earlier.reverse, r, later.reverse, ?_, hfits, fun r' hr' => ?_, rfl⟩
    · rw [← List.reverse_reverse rules, hrules, List.reverse_append, List.reverse_cons, List.append_assoc,
        List.singleton_append]
    · simpa using hlater r' (List.mem_reverse.1 hr')
  · rintro ⟨earlier, r, later, rfl, hfits, hlater, rfl⟩
    refine ⟨r, List.find?_eq_some_iff_append.2 ⟨hfits, later.reverse, earlier.reverse, ?_, fun r' hr' => ?_⟩, rfl⟩
    · rw [List.reverse_append, List.reverse_cons, List.append_assoc, List.singleton_append]
    · rw [hlater r' (List.mem_reverse.1 hr')]
      rfl

theorem verdict?_eq_none_iff :
    verdict? rules path isDirectory = none ↔ ∀ r ∈ rules, r.fits path isDirectory = false := by
  rw [verdict?, Option.map_eq_none_iff, List.find?_eq_none]
  simp only [List.mem_reverse, Bool.not_eq_true]

end Rules

/-! ## The directories on the way to an entry -/

/-- Some names lead to an entry through a directory: those above lead to the directory, and those below from there on. -/
structure Through (names above below : List EntryName) : Prop where
  names_eq : names = above ++ below
  below_ne : below ≠ []

variable {files : FileTree} {root names : List EntryName} {isDirectory : Bool} {v : Verdict}

theorem Through.length_eq {above below : List EntryName} (h : Through names above below) :
    names.length = above.length + below.length := by
  rw [h.names_eq, List.length_append]

theorem through_cons {name : EntryName} {above below : List EntryName} :
    Through (name :: names) above below ↔
      above = [] ∧ below = name :: names ∨ ∃ rest, above = name :: rest ∧ Through names rest below := by
  constructor
  · rintro ⟨heq, hne⟩
    cases above with
    | nil => exact .inl ⟨rfl, heq.symm⟩
    | cons first rest =>
      obtain ⟨rfl, hrest⟩ := List.cons.inj heq
      exact .inr ⟨rest, rfl, hrest, hne⟩
  · rintro (⟨rfl, rfl⟩ | ⟨rest, rfl, rfl, hne⟩)
    · exact ⟨rfl, List.cons_ne_nil _ _⟩
    · exact ⟨rfl, hne⟩

/-- The holders of an entry are the directories on the way to it. -/
theorem mem_holders {directory below : List EntryName} :
    (directory, below) ∈ holders root names ↔ ∃ above, Through names above below ∧ directory = root ++ above := by
  induction names generalizing root with
  | nil =>
    rw [holders]
    refine iff_of_false List.not_mem_nil ?_
    rintro ⟨above, h, -⟩
    exact h.below_ne (List.append_eq_nil_iff.1 h.names_eq.symm).2
  | cons name rest ih =>
    rw [holders, List.mem_append, ih, List.mem_singleton, Prod.mk.injEq]
    constructor
    · rintro (⟨above, h, rfl⟩ | ⟨rfl, rfl⟩)
      · exact ⟨name :: above, through_cons.2 (.inr ⟨above, rfl, h⟩), by rw [List.append_assoc]; rfl⟩
      · exact ⟨[], through_cons.2 (.inl ⟨rfl, rfl⟩), (List.append_nil _).symm⟩
    · rintro ⟨above, h, rfl⟩
      rcases through_cons.1 h with ⟨rfl, rfl⟩ | ⟨above, rfl, hrest⟩
      · exact .inr ⟨List.append_nil _, rfl⟩
      · exact .inl ⟨above, hrest, by rw [List.append_assoc]; rfl⟩

/-- The nearest holder comes first. -/
theorem pairwise_holders (root names : List EntryName) :
    (holders root names).Pairwise fun a b => a.2.length < b.2.length := by
  induction names generalizing root with
  | nil => exact .nil
  | cons name rest ih =>
    rw [holders, List.pairwise_append]
    refine ⟨ih _, List.pairwise_singleton _ _, ?_⟩
    rintro ⟨directory, below⟩ h b hb
    obtain ⟨above, hthrough, -⟩ := mem_holders.1 h
    rw [List.mem_singleton.1 hb, List.length_cons, hthrough.length_eq]
    exact Nat.lt_succ_of_le (Nat.le_add_left _ _)

theorem mem_above {directory : List EntryName} : directory ∈ above root ↔ ∃ below, Through root directory below := by
  induction root generalizing directory with
  | nil =>
    rw [above]
    refine iff_of_false List.not_mem_nil ?_
    rintro ⟨below, h⟩
    exact h.below_ne (List.append_eq_nil_iff.1 h.names_eq.symm).2
  | cons name rest ih =>
    rw [above, List.mem_cons, List.mem_map]
    simp only [ih, through_cons]
    constructor
    · rintro (rfl | ⟨rest, ⟨below, h⟩, rfl⟩)
      · exact ⟨_, .inl ⟨rfl, rfl⟩⟩
      · exact ⟨below, .inr ⟨rest, rfl, h⟩⟩
    · rintro ⟨below, ⟨rfl, -⟩ | ⟨rest, rfl, h⟩⟩
      · exact .inl rfl
      · exact .inr ⟨rest, ⟨below, h⟩, rfl⟩

/-! ## The nearest directory that decides -/

/-- What comes first in a list is what is least by a measure, if the list ascends by it. -/
theorem findSome?_eq_some_iff_least {α β : Type} {l : List α} {measure : α → Nat} {f : α → Option β} {b : β}
    (h : l.Pairwise fun x y => measure x < measure y) :
    l.findSome? f = some b ↔ ∃ x ∈ l, f x = some b ∧ ∀ y ∈ l, measure y < measure x → f y = none := by
  constructor
  · intro hfind
    obtain ⟨before, x, after, rfl, hx, hbefore⟩ := List.findSome?_eq_some_iff.1 hfind
    refine ⟨x, List.mem_append_right _ (List.mem_cons_self ..), hx, fun y hy hlt => ?_⟩
    rcases List.mem_append.1 hy with hy | hy
    · exact hbefore y hy
    · rcases List.mem_cons.1 hy with rfl | hy
      · exact absurd hlt (Nat.lt_irrefl _)
      · exact absurd hlt (Nat.lt_asymm (List.rel_of_pairwise_cons (List.pairwise_append.1 h).2.1 hy))
  · rintro ⟨x, hx, hfx, hleast⟩
    obtain ⟨before, after, rfl⟩ := List.append_of_mem hx
    refine List.findSome?_eq_some_iff.2 ⟨before, x, after, rfl, hfx, fun y hy => ?_⟩
    exact hleast y (List.mem_append_left _ hy) ((List.pairwise_append.1 h).2.2 y hy x (List.mem_cons_self ..))

/-- The levels of a repository end with the first one that is a repository. -/
theorem mem_withinRepository {levels : List (Level × List EntryName)} {x : Level × List EntryName}
    (h : levels.Pairwise fun a b => a.2.length < b.2.length) :
    x ∈ withinRepository levels ↔ x ∈ levels ∧ ∀ y ∈ levels, y.2.length < x.2.length → y.1.isRepository = false := by
  induction levels with
  | nil => exact iff_of_false List.not_mem_nil fun h => List.not_mem_nil h.1
  | cons first rest ih =>
    obtain ⟨hfirst, hrest⟩ := List.pairwise_cons.1 h
    obtain ⟨l, below⟩ := first
    have hleast : ∀ y ∈ (l, below) :: rest, ¬y.2.length < below.length := by
      intro y hy hlt
      rcases List.mem_cons.1 hy with rfl | hy
      · exact Nat.lt_irrefl _ hlt
      · exact Nat.lt_asymm hlt (hfirst y hy)
    rw [withinRepository]
    split
    · rename_i hrepository
      rw [List.mem_singleton]
      constructor
      · rintro rfl
        exact ⟨List.mem_cons_self .., fun y hy hlt => absurd hlt (hleast y hy)⟩
      · rintro ⟨hx, hnone⟩
        rcases List.mem_cons.1 hx with rfl | hx
        · rfl
        · have hfalse := hnone _ (List.mem_cons_self ..) (hfirst x hx)
          rw [hrepository] at hfalse
          cases hfalse
    · rename_i hrepository
      rw [List.mem_cons, ih hrest]
      constructor
      · rintro (rfl | ⟨hx, hnone⟩)
        · exact ⟨List.mem_cons_self .., fun y hy hlt => absurd hlt (hleast y hy)⟩
        · refine ⟨List.mem_cons_of_mem _ hx, List.forall_mem_cons.2 ⟨fun _ => ?_, hnone⟩⟩
          exact Bool.eq_false_iff.2 hrepository
      · rintro ⟨hx, hnone⟩
        rcases List.mem_cons.1 hx with rfl | hx
        · exact .inl rfl
        · exact .inr ⟨hx, fun y hy => hnone y (List.mem_cons_of_mem _ hy)⟩

theorem pairwise_withinRepository {levels : List (Level × List EntryName)}
    (h : levels.Pairwise fun a b => a.2.length < b.2.length) :
    (withinRepository levels).Pairwise fun a b => a.2.length < b.2.length := by
  refine h.sublist ?_
  clear h
  induction levels with
  | nil => exact .slnil
  | cons first rest ih =>
    rw [withinRepository]
    split
    · exact (List.nil_sublist rest).cons_cons _
    · exact ih.cons_cons _

/-! ## What is ignored -/

/-- No rule of some directories on the way to an entry fits it. -/
def NoneFits (counts : List EntryName → Prop) (rulesOf : List EntryName → List IgnoreRule) (names : List EntryName)
    (isDirectory : Bool) : Prop :=
  ∀ above below, Through names above below → counts above → ∀ r ∈ rulesOf above, r.fits (.ofParts below) isDirectory = false

/-- What is said of an entry by the nearest of some directories on the way to it that has a rule that fits. -/
def NearestSays (counts : List EntryName → Prop) (rulesOf : List EntryName → List IgnoreRule) (names : List EntryName)
    (isDirectory : Bool) (v : Verdict) : Prop :=
  ∃ above below, Through names above below ∧ counts above ∧ Says (rulesOf above) (.ofParts below) isDirectory v ∧
    NoneFits (fun nearer => counts nearer ∧ above.length < nearer.length) rulesOf names isDirectory

/-- The ignore files between a root and an entry ignore the entry. -/
def IgnoredByFiles (files : FileTree) (root names : List EntryName) (isDirectory : Bool) : Prop :=
  NearestSays (fun _ => True) (fun above => (level files (root ++ above)).rules) names isDirectory .ignored

/-- The lists of the repositories between a root and an entry exclude the entry. -/
def ExcludedByLists (files : FileTree) (root names : List EntryName) (isDirectory : Bool) : Prop :=
  NearestSays (fun _ => True) (fun above => (level files (root ++ above)).excludes) names isDirectory .ignored

/-- No repository starts between a directory and the entry that names lead to. -/
def Reaches (files : FileTree) (root names above : List EntryName) : Prop :=
  ∀ nearer below, Through names nearer below → above.length < nearer.length → isRepository files (root ++ nearer) = false

/-- Git ignores an entry: it is within a repository, and of the directories within the innermost one either the nearest that
has a fitting rule in its ignore file says so, or none has and the list says so. -/
structure Ignored (files : FileTree) (root names : List EntryName) (isDirectory : Bool) : Prop where
  inRepository : ∃ directory below, Through (root ++ names) directory below ∧ isRepository files directory = true
  decided :
    NearestSays (Reaches files root names) (fun above => (level files (root ++ above)).rules) names isDirectory .ignored ∨
    NoneFits (Reaches files root names) (fun above => (level files (root ++ above)).rules) names isDirectory ∧
      NearestSays (Reaches files root names) (fun above => (level files (root ++ above)).excludes) names isDirectory .ignored

/-- What the directories on the way to an entry say, the nearest one first. -/
def levelsOf (files : FileTree) (root names : List EntryName) : List (Level × List EntryName) :=
  (holders root names).map fun (directory, below) => (level files directory, below)

theorem mem_levelsOf {x : Level × List EntryName} :
    x ∈ levelsOf files root names ↔ ∃ above below, Through names above below ∧ x = (level files (root ++ above), below) := by
  rw [levelsOf, List.mem_map]
  constructor
  · rintro ⟨⟨directory, below⟩, h, rfl⟩
    obtain ⟨above, hthrough, rfl⟩ := mem_holders.1 h
    exact ⟨above, below, hthrough, rfl⟩
  · rintro ⟨above, below, hthrough, rfl⟩
    exact ⟨(root ++ above, below), mem_holders.2 ⟨above, hthrough, rfl⟩, rfl⟩

theorem pairwise_levelsOf (files : FileTree) (root names : List EntryName) :
    (levelsOf files root names).Pairwise fun a b => a.2.length < b.2.length :=
  List.pairwise_map.2 (pairwise_holders root names)

/-- Of the directories on the way to an entry, those count that the entry is in the repository of. -/
theorem mem_withinRepository_levelsOf {x : Level × List EntryName} :
    x ∈ withinRepository (levelsOf files root names) ↔
      ∃ above below, Through names above below ∧ Reaches files root names above ∧ x = (level files (root ++ above), below) := by
  rw [mem_withinRepository (pairwise_levelsOf files root names), mem_levelsOf]
  constructor
  · rintro ⟨⟨above, below, hthrough, rfl⟩, hnone⟩
    refine ⟨above, below, hthrough, fun nearer rest hnearer hlt => ?_, rfl⟩
    have hshorter : rest.length < below.length := by
      have := hthrough.length_eq
      have := hnearer.length_eq
      omega
    exact hnone _ (mem_levelsOf.2 ⟨nearer, rest, hnearer, rfl⟩) hshorter
  · rintro ⟨above, below, hthrough, hreaches, rfl⟩
    refine ⟨⟨above, below, hthrough, rfl⟩, fun y hy hshorter => ?_⟩
    obtain ⟨nearer, rest, hnearer, rfl⟩ := mem_levelsOf.1 hy
    refine hreaches nearer rest hnearer ?_
    have := hthrough.length_eq
    have := hnearer.length_eq
    have : rest.length < below.length := hshorter
    omega

section Deciding

variable (rulesOf : Level → List IgnoreRule)

theorem findSome?_verdict?_eq_none :
    ((withinRepository (levelsOf files root names)).findSome? fun (l, below) =>
        verdict? (rulesOf l) (.ofParts below) isDirectory) = none ↔
      NoneFits (Reaches files root names) (fun above => rulesOf (level files (root ++ above))) names isDirectory := by
  rw [List.findSome?_eq_none_iff]
  constructor
  · intro h above below hthrough hreaches
    exact verdict?_eq_none_iff.1 (h _ (mem_withinRepository_levelsOf.2 ⟨above, below, hthrough, hreaches, rfl⟩))
  · intro h x hx
    obtain ⟨above, below, hthrough, hreaches, rfl⟩ := mem_withinRepository_levelsOf.1 hx
    exact verdict?_eq_none_iff.2 (h above below hthrough hreaches)

theorem findSome?_verdict?_eq_some :
    ((withinRepository (levelsOf files root names)).findSome? fun (l, below) =>
        verdict? (rulesOf l) (.ofParts below) isDirectory) = some v ↔
      NearestSays (Reaches files root names) (fun above => rulesOf (level files (root ++ above))) names isDirectory v := by
  rw [findSome?_eq_some_iff_least (pairwise_withinRepository (pairwise_levelsOf files root names))]
  constructor
  · rintro ⟨x, hx, hsays, hleast⟩
    obtain ⟨above, below, hthrough, hreaches, rfl⟩ := mem_withinRepository_levelsOf.1 hx
    refine ⟨above, below, hthrough, hreaches, verdict?_eq_some_iff.1 hsays, ?_⟩
    rintro nearer rest hnearer ⟨hcounts, hlt⟩
    have hshorter : rest.length < below.length := by
      have := hthrough.length_eq
      have := hnearer.length_eq
      omega
    exact verdict?_eq_none_iff.1 (hleast _ (mem_withinRepository_levelsOf.2 ⟨nearer, rest, hnearer, hcounts, rfl⟩) hshorter)
  · rintro ⟨above, below, hthrough, hreaches, hsays, hnone⟩
    refine ⟨_, mem_withinRepository_levelsOf.2 ⟨above, below, hthrough, hreaches, rfl⟩, verdict?_eq_some_iff.2 hsays,
      fun y hy hshorter => ?_⟩
    obtain ⟨nearer, rest, hnearer, hcounts, rfl⟩ := mem_withinRepository_levelsOf.1 hy
    refine verdict?_eq_none_iff.2 (hnone nearer rest hnearer ⟨hcounts, ?_⟩)
    have := hthrough.length_eq
    have := hnearer.length_eq
    have : rest.length < below.length := hshorter
    omega

end Deciding

/-- The directories above an entry are those above the root and those from the root on. -/
theorem exists_through_append {p : List EntryName → Prop} :
    (∃ directory below, Through (root ++ names) directory below ∧ p directory) ↔
      (∃ above below, Through names above below ∧ p (root ++ above)) ∨
        ∃ directory below, Through root directory below ∧ p directory := by
  constructor
  · rintro ⟨directory, below, ⟨heq, hne⟩, hp⟩
    rcases List.append_eq_append_iff.1 heq with ⟨above, rfl, hnames⟩ | ⟨between, rfl, hbelow⟩
    · exact .inl ⟨above, below, ⟨hnames, hne⟩, hp⟩
    · by_cases hbetween : between = []
      · subst hbetween
        rw [List.nil_append] at hbelow
        refine .inl ⟨[], below, ⟨hbelow.symm, hne⟩, ?_⟩
        rw [List.append_nil, List.append_nil]
        exact hp
      · exact .inr ⟨directory, between, ⟨rfl, hbetween⟩, hp⟩
  · rintro (⟨above, below, ⟨rfl, hne⟩, hp⟩ | ⟨directory, below, ⟨rfl, hne⟩, hp⟩)
    · exact ⟨root ++ above, below, ⟨(List.append_assoc _ _ _).symm, hne⟩, hp⟩
    · exact ⟨directory, below ++ names, ⟨List.append_assoc _ _ _, fun h => hne (List.append_eq_nil_iff.1 h).1⟩, hp⟩

/-- Git ignores what the innermost repository says that it ignores. -/
theorem ignores_iff : ignores files root names isDirectory = true ↔ Ignored files root names isDirectory := by
  have hinside : ((levelsOf files root names).any (·.1.isRepository) || (above root).any (isRepository files)) = true ↔
      ∃ directory below, Through (root ++ names) directory below ∧ isRepository files directory = true := by
    rw [Bool.or_eq_true, List.any_eq_true, List.any_eq_true, exists_through_append]
    refine or_congr ?_ ?_
    · constructor
      · rintro ⟨x, hx, hrepository⟩
        obtain ⟨above, below, hthrough, rfl⟩ := mem_levelsOf.1 hx
        exact ⟨above, below, hthrough, hrepository⟩
      · rintro ⟨above, below, hthrough, hrepository⟩
        exact ⟨_, mem_levelsOf.2 ⟨above, below, hthrough, rfl⟩, hrepository⟩
    · simp only [mem_above, ← exists_and_right]
  have hdecided : decide? (withinRepository (levelsOf files root names)) isDirectory = some .ignored ↔
      NearestSays (Reaches files root names) (fun above => (level files (root ++ above)).rules) names isDirectory .ignored ∨
        NoneFits (Reaches files root names) (fun above => (level files (root ++ above)).rules) names isDirectory ∧
          NearestSays (Reaches files root names) (fun above => (level files (root ++ above)).excludes) names isDirectory
            .ignored := by
    rw [decide?, Option.orElse_eq_orElse, Option.orElse_eq_or, Option.or_eq_some_iff, findSome?_verdict?_eq_some Level.rules,
      findSome?_verdict?_eq_none Level.rules, findSome?_verdict?_eq_some Level.excludes]
  have hignores : ignores files root names isDirectory =
      (((levelsOf files root names).any (·.1.isRepository) || (above root).any (isRepository files)) &&
        decide? (withinRepository (levelsOf files root names)) isDirectory == some .ignored) := rfl
  rw [hignores, Bool.and_eq_true, hinside, beq_iff_eq, hdecided]
  constructor
  · rintro ⟨hinRepository, hdecided⟩
    exact ⟨hinRepository, hdecided⟩
  · rintro ⟨hinRepository, hdecided⟩
    exact ⟨hinRepository, hdecided⟩

/-- What Git ignores is ignored by the ignore files on the way to it, or excluded by the lists. -/
theorem Ignored.byFiles_or_byLists (h : Ignored files root names isDirectory) :
    IgnoredByFiles files root names isDirectory ∨ ExcludedByLists files root names isDirectory := by
  have hall : ∀ {rulesOf : List EntryName → List IgnoreRule},
      NearestSays (Reaches files root names) rulesOf names isDirectory .ignored →
        NearestSays (fun _ => True) rulesOf names isDirectory .ignored := by
    rintro rulesOf ⟨above, below, hthrough, hreaches, hsays, hnone⟩
    -- What is nearer than a directory of the innermost repository is in it as well.
    refine ⟨above, below, hthrough, trivial, hsays, fun nearer rest hnearer ⟨_, hlt⟩ => ?_⟩
    refine hnone nearer rest hnearer ⟨fun further rest' hfurther hlt' => ?_, hlt⟩
    exact hreaches further rest' hfurther (hlt.trans hlt')
  rcases h.decided with hfiles | ⟨-, hlists⟩
  · exact .inl (hall hfiles)
  · exact .inr (hall hlists)

/-- Within one repository that starts at the root or above it, Git ignores what the ignore files on the way ignore. -/
theorem IgnoredByFiles.ignored (h : IgnoredByFiles files root names isDirectory)
    (hrepository : ∃ directory, directory <+: root ∧ isRepository files directory = true)
    (hone : ∀ above below, Through names above below → above ≠ [] → isRepository files (root ++ above) = false) :
    Ignored files root names isDirectory := by
  have hreaches : ∀ above, Reaches files root names above := by
    intro above nearer below hnearer hlt
    exact hone nearer below hnearer (List.ne_nil_of_length_pos (Nat.lt_of_le_of_lt (Nat.zero_le _) hlt))
  obtain ⟨above, below, hthrough, -, hsays, hnone⟩ := h
  refine ⟨?_, .inl ⟨above, below, hthrough, hreaches above, hsays, ?_⟩⟩
  · obtain ⟨directory, ⟨rest, rfl⟩, hrepository⟩ := hrepository
    refine ⟨directory, rest ++ names, ⟨List.append_assoc _ _ _, fun h => ?_⟩, hrepository⟩
    have hnil : above ++ below = [] := hthrough.names_eq ▸ (List.append_eq_nil_iff.1 h).2
    exact hthrough.below_ne (List.append_eq_nil_iff.1 hnil).2
  · rintro nearer rest hnearer ⟨-, hlt⟩
    exact hnone nearer rest hnearer ⟨trivial, hlt⟩

end GitIgnore

/-! ## Walks -/

/-- An entry of a tree, or a directory on the way to it, is such. -/
def FileTree.OnWay (t : FileTree) (p : List EntryName → Bool → Prop) (names : List EntryName) : Prop :=
  ∃ before u, before ≠ [] ∧ before <+: names ∧ t.at? before = some u ∧ p before u.isDirectory

namespace Walker

open FileTree GitIgnore

variable {files t : FileTree} {root names : List EntryName}

/-- Whether Git ignores an entry, or a directory on the way to it. -/
def ignoresOnWay (files t : FileTree) (root names : List EntryName) : Bool :=
  names.inits.any fun before => before ≠ [] && (t.at? before).any fun u => ignores files root before u.isDirectory

theorem ignoresOnWay_iff : ignoresOnWay files t root names = true ↔ t.OnWay (Ignored files root) names := by
  rw [ignoresOnWay, List.any_eq_true]
  simp only [List.mem_inits, Bool.and_eq_true, decide_eq_true_eq, Option.any_eq_true, ignores_iff]
  constructor
  · rintro ⟨before, hbefore, hne, u, hu, hignored⟩
    exact ⟨before, u, hne, hbefore, hu, hignored⟩
  · rintro ⟨before, u, hne, hbefore, hu, hignored⟩
    exact ⟨before, hbefore, hne, u, hu, hignored⟩

instance (files t : FileTree) (root names : List EntryName) : Decidable (t.OnWay (Ignored files root) names) :=
  decidable_of_iff _ ignoresOnWay_iff

/-- A walk that passes over what Git ignores comes by what it comes by otherwise, apart from what is ignored and what is below
it. -/
theorem listing_gitIgnore (w : Walker) (ht : t.Named) :
    t.listing ({ w with gitIgnore := true }.skips files root) [] =
      (t.listing (fun names u => w.excludes names u.isDirectory) []).filter fun e => ¬t.OnWay (Ignored files root) e.1 := by
  have hskips : ∀ names u, { w with gitIgnore := true }.skips files root names u = false ↔
      w.excludes names u.isDirectory = false ∧ ¬Ignored files root names u.isDirectory := by
    intro names u
    rw [skips, Bool.true_and, Bool.or_eq_false_iff, ← ignores_iff, Bool.not_eq_true]
    exact Iff.rfl
  refine ht.pairwise_listing.eq_of_mem_iff (ht.pairwise_listing.filter _) ?_
  rintro ⟨names, u⟩
  rw [List.mem_filter, decide_eq_true_eq, ht.mem_listing, ht.mem_listing]
  constructor
  · rintro ⟨rest, rfl, hne, hfound, hkept⟩
    have hboth := fun before hbefore hprefix v hv => (hskips _ v).1 (hkept before hbefore hprefix v hv)
    refine ⟨⟨names, rfl, hne, hfound, fun before hbefore hprefix v hv => (hboth before hbefore hprefix v hv).1⟩, ?_⟩
    rintro ⟨before, v, hbefore, hprefix, hv, hignored⟩
    exact (hboth before hbefore hprefix v hv).2 hignored
  · rintro ⟨⟨rest, rfl, hne, hfound, hkept⟩, hnot⟩
    refine ⟨names, rfl, hne, hfound, fun before hbefore hprefix v hv => (hskips _ v).2 ⟨?_, fun hignored => ?_⟩⟩
    · exact hkept before hbefore hprefix v hv
    · exact hnot ⟨before, v, hbefore, hprefix, hv, hignored⟩

/-- What comes of visiting the root and what is found below it. -/
def yielded (w : Walker) (t : FileTree) (found : List (List EntryName × FileTree)) : List (Except WalkError Candidate) :=
  (w.visit? w.root t).toList ++ found.filterMap fun e => w.visit? (w.pathOf e.1) e.2

theorem walk_eq_yielded (w : Walker) (hroot : files.resolve w.root = .ok (root, t)) :
    w.walk files = w.yielded t (t.listing (w.skips files root) []) := by
  rw [walk]
  simp only [hroot]
  rfl

/-- What a walk that passes over what Git ignores yields: what it yields otherwise, in the same order, without what Git ignores
and what is below that. So what no ignore file ignores and no list excludes is yielded; and what the ignore files ignore is not,
as long as a repository starts at the root or above it and none between the root and the entry. -/
theorem walk_gitIgnore (w : Walker) (hroot : files.resolve w.root = .ok (root, t)) (ht : t.Named) :
    let found := t.listing (fun names u => w.excludes names u.isDirectory) []
    { w with gitIgnore := false }.walk files = w.yielded t found ∧
    { w with gitIgnore := true }.walk files = w.yielded t (found.filter fun e => ¬t.OnWay (Ignored files root) e.1) ∧
    (∀ names, t.OnWay (Ignored files root) names →
      t.OnWay (IgnoredByFiles files root) names ∨ t.OnWay (ExcludedByLists files root) names) ∧
    ∀ names, (∃ directory, directory <+: root ∧ isRepository files directory = true) →
      (∀ above below, Through names above below → above ≠ [] → isRepository files (root ++ above) = false) →
      t.OnWay (IgnoredByFiles files root) names → t.OnWay (Ignored files root) names := by
  intro found
  refine ⟨?_, ?_, ?_, ?_⟩
  · have hskips : { w with gitIgnore := false }.skips files root = fun names u => w.excludes names u.isDirectory := by
      funext names u
      rw [skips, Bool.false_and, Bool.or_false]
      rfl
    rw [walk_eq_yielded { w with gitIgnore := false } hroot, hskips]
    rfl
  · rw [walk_eq_yielded { w with gitIgnore := true } hroot, listing_gitIgnore w ht]
    rfl
  · rintro names ⟨before, u, hne, hbefore, hu, hignored⟩
    rcases hignored.byFiles_or_byLists with hfiles | hlists
    · exact .inl ⟨before, u, hne, hbefore, hu, hfiles⟩
    · exact .inr ⟨before, u, hne, hbefore, hu, hlists⟩
  · rintro names hrepository hone ⟨before, u, hne, ⟨rest, hrest⟩, hu, hfiles⟩
    refine ⟨before, u, hne, ⟨rest, hrest⟩, hu, hfiles.ignored hrepository fun above below hthrough => ?_⟩
    refine hone above (below ++ rest) ⟨?_, fun h => hthrough.below_ne (List.append_eq_nil_iff.1 h).1⟩
    rw [← hrest, hthrough.names_eq, List.append_assoc]

/-- The lines of an ignore file: of two source files it ignores one, and takes back that it ignores the other. -/
def ignoreLines : List UInt8 :=
  Text.utf8 "/a.go\n/b.go\n!/b.go\n".toList

/-- That ignore file, and the source files. -/
def ignoringEntries : List (EntryName × FileTree) :=
  [(".gitignore", file ignoreLines), ("a.go", file []), ("b.go", file [])]

/-- A project of them, as a repository or not. -/
def ignoringProject (repository : Bool) : FileTree :=
  directory (if repository then (".git", directory []) :: ignoringEntries else ignoringEntries)

/-- The top of a file system with the project. -/
def ignoringTop (repository : Bool) : FileTree :=
  directory [("p", ignoringProject repository)]

theorem named_ignoringProject (repository : Bool) : (ignoringProject repository).Named := by
  cases repository with
  | false =>
    refine .directory (by decide) (by decide) ?_
    simp only [Bool.false_eq_true, if_false, ignoringEntries, List.forall_mem_cons]
    exact ⟨.file _, .file _, .file _, nofun⟩
  | true =>
    refine .directory (by decide) (by decide) ?_
    simp only [if_true, ignoringEntries, List.forall_mem_cons]
    exact ⟨.directory (by decide) nofun nofun, .file _, .file _, .file _, nofun⟩

theorem resolve_ignoringTop (repository : Bool) :
    (ignoringTop repository).resolve ⟨"/p"⟩ = .ok (["p"], ignoringProject repository) := by
  cases repository with
  | false => cbv
  | true => cbv

theorem level_ignoringTop (repository : Bool) :
    level (ignoringTop repository) ["p"] = ⟨rules ignoreLines, [], repository⟩ := by
  have hfile : (ignoringTop repository).findIn ["p"] (Path.steps ⟨".gitignore"⟩) = .ok (file ignoreLines) := by
    cases repository with
    | false => cbv
    | true => cbv
  have hrules : rulesAt (ignoringTop repository) ["p"] ⟨".gitignore"⟩ = rules ignoreLines := by
    rw [rulesAt, hfile]
    rfl
  have hlist : rulesAt (ignoringTop repository) ["p"] ⟨".git/info/exclude"⟩ = [] := by
    cases repository with
    | false => cbv
    | true => cbv
  have hrepository : isRepository (ignoringTop repository) ["p"] = repository := by
    cases repository with
    | false => cbv
    | true => cbv
  rw [level, hrules, hlist, hrepository]

/-- A walk over the project. -/
def ignoringWalker : Walker where
  root := ⟨"/p"⟩

theorem listing_ignoringProject (repository : Bool) :
    (ignoringProject repository).listing (fun names u => ignoringWalker.excludes names u.isDirectory) [] =
      ([([".gitignore"], file ignoreLines), (["a.go"], file []), (["b.go"], file [])] : List (List EntryName × FileTree)) := by
  cases repository with
  | false => cbv
  | true => cbv

theorem ignores_ignoringTop (repository : Bool) (name : EntryName) (isDirectory : Bool) :
    ignores (ignoringTop repository) ["p"] [name] isDirectory =
      (repository && verdict? (rules ignoreLines) ⟨name⟩ isDirectory == some .ignored) := by
  have houter : isRepository (ignoringTop repository) [] = false := by
    cases repository with
    | false => cbv
    | true => cbv
  have hdecide : decide? (withinRepository [(⟨rules ignoreLines, [], repository⟩, [name])]) isDirectory =
      verdict? (rules ignoreLines) ⟨name⟩ isDirectory := by
    have hwithin : withinRepository [((⟨rules ignoreLines, [], repository⟩ : Level), [name])] =
        [(⟨rules ignoreLines, [], repository⟩, [name])] := by
      cases repository with
      | false => rfl
      | true => rfl
    rw [hwithin, decide?, List.findSome?_singleton, List.findSome?_singleton]
    show (verdict? (rules ignoreLines) ⟨name⟩ isDirectory <|> none) = verdict? (rules ignoreLines) ⟨name⟩ isDirectory
    cases verdict? (rules ignoreLines) ⟨name⟩ isDirectory with
    | none => rfl
    | some v => rfl
  simp only [ignores, holders, List.nil_append, List.map_cons, List.map_nil, level_ignoringTop, above, List.any_cons,
    List.any_nil, houter, Bool.or_false, hdecide]

theorem verdict?_ignoreLines :
    verdict? (rules ignoreLines) ⟨".gitignore"⟩ false = none ∧
      verdict? (rules ignoreLines) ⟨"a.go"⟩ false = some .ignored ∧
      verdict? (rules ignoreLines) ⟨"b.go"⟩ false = some .kept := by
  decide +kernel

/-- Git ignores a file of the project if the project is a repository and the ignore file says so. -/
theorem onWay_ignoringTop {repository : Bool} {name : EntryName} {bytes : List UInt8}
    (h : (ignoringProject repository).at? [name] = some (file bytes)) :
    (ignoringProject repository).OnWay (Ignored (ignoringTop repository) ["p"]) [name] ↔
      repository = true ∧ verdict? (rules ignoreLines) ⟨name⟩ false = some .ignored := by
  have hignored : Ignored (ignoringTop repository) ["p"] [name] false ↔
      repository = true ∧ verdict? (rules ignoreLines) ⟨name⟩ false = some .ignored := by
    rw [← ignores_iff, ignores_ignoringTop, Bool.and_eq_true, beq_iff_eq]
  constructor
  · rintro ⟨before, u, hne, hbefore, hu, hbeforeIgnored⟩
    rcases List.prefix_cons_iff.1 hbefore with rfl | ⟨rest, rfl, hrest⟩
    · exact absurd rfl hne
    · obtain rfl := List.prefix_nil.1 hrest
      obtain rfl := Option.some.inj (h.symm.trans hu)
      exact hignored.1 hbeforeIgnored
  · intro hboth
    exact ⟨[name], _, List.cons_ne_nil _ _, List.prefix_rfl, h, hignored.2 hboth⟩

/-- What the walk yields of some entries of the project. -/
theorem yielded_ignoringProject (repository : Bool) :
    ignoringWalker.yielded (ignoringProject repository)
        [([".gitignore"], file ignoreLines), (["a.go"], file []), (["b.go"], file [])] =
      [.ok ⟨⟨"/p/a.go"⟩, .go⟩, .ok ⟨⟨"/p/b.go"⟩, .go⟩] ∧
    ignoringWalker.yielded (ignoringProject repository) [([".gitignore"], file ignoreLines), (["b.go"], file [])] =
      [.ok ⟨⟨"/p/b.go"⟩, .go⟩] := by
  constructor <;> cbv

/-- In the project as a repository, the walk passes over the source file that is ignored, and over nothing else. -/
theorem walk_gitIgnore_repository :
    (ignoringTop true).resolve ignoringWalker.root = .ok (["p"], ignoringProject true) ∧ (ignoringProject true).Named ∧
    { ignoringWalker with gitIgnore := false }.walk (ignoringTop true) =
      [.ok ⟨⟨"/p/a.go"⟩, .go⟩, .ok ⟨⟨"/p/b.go"⟩, .go⟩] ∧
    { ignoringWalker with gitIgnore := true }.walk (ignoringTop true) = [.ok ⟨⟨"/p/b.go"⟩, .go⟩] := by
  obtain ⟨hplain, hcareful, -, -⟩ :=
    walk_gitIgnore ignoringWalker (resolve_ignoringTop true) (named_ignoringProject true)
  obtain ⟨hfile, ha, hb⟩ := verdict?_ignoreLines
  have hkeepsFile : ¬(ignoringProject true).OnWay (Ignored (ignoringTop true) ["p"]) [".gitignore"] := by
    rw [onWay_ignoringTop rfl, hfile]
    exact fun h => by cases h.2
  have hignored : (ignoringProject true).OnWay (Ignored (ignoringTop true) ["p"]) ["a.go"] :=
    (onWay_ignoringTop rfl).2 ⟨rfl, ha⟩
  have hkeeps : ¬(ignoringProject true).OnWay (Ignored (ignoringTop true) ["p"]) ["b.go"] := by
    rw [onWay_ignoringTop rfl, hb]
    exact fun h => by cases h.2
  rw [listing_ignoringProject] at hplain hcareful
  refine ⟨resolve_ignoringTop true, named_ignoringProject true, ?_, ?_⟩
  · rw [hplain, (yielded_ignoringProject true).1]
  · rw [hcareful, ← (yielded_ignoringProject true).2]
    simp only [List.filter_cons, List.filter_nil, hkeepsFile, hignored, hkeeps, not_true_eq_false, not_false_eq_true,
      decide_true, decide_false, if_true, Bool.false_eq_true, if_false]

/-- Where the project is no repository, the walk yields the source file that its ignore file ignores. -/
theorem walk_gitIgnore_without :
    (ignoringTop false).resolve ignoringWalker.root = .ok (["p"], ignoringProject false) ∧
    (ignoringProject false).at? ["a.go"] = some (file []) ∧
    IgnoredByFiles (ignoringTop false) ["p"] ["a.go"] false ∧
    { ignoringWalker with gitIgnore := true }.walk (ignoringTop false) =
      [.ok ⟨⟨"/p/a.go"⟩, .go⟩, .ok ⟨⟨"/p/b.go"⟩, .go⟩] := by
  refine ⟨resolve_ignoringTop false, rfl, ?_, ?_⟩
  · have hsays : Says (level (ignoringTop false) ((["p"] : List EntryName) ++ [])).rules (.ofParts ["a.go"]) false .ignored := by
      rw [List.append_nil, level_ignoringTop]
      exact verdict?_eq_some_iff.1 verdict?_ignoreLines.2.1
    refine ⟨[], ["a.go"], ⟨rfl, List.cons_ne_nil _ _⟩, trivial, hsays, fun nearer below hnearer ⟨_, hlt⟩ => ?_⟩
    rcases through_cons.1 hnearer with ⟨rfl, -⟩ | ⟨rest, -, hrest⟩
    · exact absurd hlt (Nat.lt_irrefl _)
    · exact absurd (List.append_eq_nil_iff.1 hrest.names_eq.symm).2 hrest.below_ne
  · rw [walk_eq_yielded { ignoringWalker with gitIgnore := true } (resolve_ignoringTop false),
      listing_gitIgnore ignoringWalker (named_ignoringProject false), listing_ignoringProject, ← (yielded_ignoringProject false).1]
    have hkeeps : ∀ name bytes, (ignoringProject false).at? [name] = some (file bytes) →
        ¬(ignoringProject false).OnWay (Ignored (ignoringTop false) ["p"]) [name] := by
      intro name bytes h hignored
      cases ((onWay_ignoringTop h).1 hignored).1
    simp only [List.filter_cons, List.filter_nil, hkeeps ".gitignore" ignoreLines rfl, hkeeps "a.go" [] rfl,
      hkeeps "b.go" [] rfl, not_false_eq_true, decide_true, if_true]
    rfl

end Walker

end ComponentAudit
