import ComponentAudit.Proofs.Paths

/-!
# Where a path leads

A path is followed step by step, and each step but the last has to lead to a directory. A path that leads to a file therefore
leads no further: with a step more there is nothing to be read (`FileTree.read_div_empty`).
-/

namespace ComponentAudit

open Text

namespace FileTree

variable {top : FileTree} {links : Nat} {names found : List EntryName} {steps : List Path.Step} {bytes : List UInt8}

/-- Where the way to a directory starts, and each time it goes up, there is a directory. -/
theorem exists_directory_dropLast (h : ∃ entries, top.at? names = some (directory entries)) :
    ∃ entries, top.at? names.dropLast = some (directory entries) := by
  obtain ⟨entries, hentries⟩ := h
  cases names using List.reverseRec with
  | nil => exact ⟨entries, hentries⟩
  | append_singleton above name =>
    rw [List.dropLast_concat]
    exact exists_directory_of_at?_append (List.cons_ne_nil _ _) hentries

theorem exists_directory_top (h : ∃ entries, top.at? names = some (directory entries)) :
    ∃ entries, top.at? [] = some (directory entries) := by
  obtain ⟨entries, hentries⟩ := h
  cases names with
  | nil => exact ⟨entries, hentries⟩
  | cons name rest => exact exists_directory_of_at?_append (List.cons_ne_nil name rest) hentries

/-- A way from a directory to a file ends with a name, and a further step that would stay in a directory fails. -/
theorem follow_file (hfollow : top.follow links names steps = .ok (.found found)) (hfile : top.at? found = some (file bytes))
    (hnames : ∃ entries, top.at? names = some (directory entries)) :
    (∃ name, steps.getLast? = some (.into name)) ∧ top.follow links names (steps ++ [.here]) = .error .notDirectory := by
  have hcons : ∀ {step : Path.Step} {rest : List Path.Step}, (∃ name, rest.getLast? = some (.into name)) →
      ∃ name, (step :: rest).getLast? = some (.into name) := by
    rintro step rest ⟨name, hname⟩
    exact ⟨name, by rw [List.getLast?_cons, hname, Option.getD_some]⟩
  fun_induction follow top links names steps with
  | case1 links names =>
    -- The way ends where it starts, which is a directory.
    cases hfollow
    obtain ⟨entries, hentries⟩ := hnames
    rw [hfile] at hentries
    cases hentries
  | case2 links names rest ih =>
    obtain ⟨hlast, hend⟩ := ih hfollow hnames
    exact ⟨hcons hlast, by rw [List.cons_append, follow, hend]⟩
  | case3 links names rest ih =>
    obtain ⟨hlast, hend⟩ := ih hfollow (exists_directory_dropLast hnames)
    exact ⟨hcons hlast, by rw [List.cons_append, follow, hend]⟩
  | case4 => cases hfollow
  | case5 links names name rest entries hat ih =>
    obtain ⟨hlast, hend⟩ := ih hfollow ⟨entries, hat⟩
    exact ⟨hcons hlast, by rw [List.cons_append, follow, hat]; exact hend⟩
  | case6 links names name bytes' hat =>
    refine ⟨⟨name, rfl⟩, ?_⟩
    rw [List.singleton_append, follow, hat]
    exact if_neg (List.cons_ne_nil _ _)
  | case7 => cases hfollow
  | case8 links names name hat =>
    cases hfollow
    rw [hfile] at hat
    cases hat
  | case9 => cases hfollow
  | case10 links names name hat =>
    cases hfollow
    rw [hfile] at hat
    cases hat
  | case11 => cases hfollow
  | case12 => cases hfollow
  | case13 names name rest target hat links ih =>
    have hstart : ∃ entries, top.at? (if target.isAbsolute then [] else names) = some (directory entries) := by
      split
      · exact exists_directory_top hnames
      · exact hnames
    obtain ⟨hlast, hend⟩ := ih hfollow hstart
    constructor
    · by_cases hrest : rest = []
      · exact ⟨name, by rw [hrest]; rfl⟩
      · rw [List.getLast?_append_of_ne_nil _ hrest] at hlast
        exact hcons hlast
    · rw [List.cons_append, follow, hat]
      rw [List.append_assoc] at hend
      exact hend

/-- A path with a slash at its end has a last step that stays in a directory. -/
theorem getLast?_steps {p : Path} (h : p.bytes.getLast? = some Path.slash) : p.steps.getLast? = some .here := by
  have hbytes := List.dropLast_append_getLast? Path.slash h
  rw [Path.steps, Path.parts, ← hbytes, split_append_cons, List.map_append]
  exact List.getLast?_concat

/-- The empty path below a path ends with a slash, and so takes a further step, which stays in a directory. -/
theorem steps_div_empty {p : Path} (hlead : ¬(p.bytes = [] ∨ p.bytes.getLast? = some Path.slash)) :
    (p / (⟨[]⟩ : Path)).bytes ≠ [] ∧ (p / (⟨[]⟩ : Path)).steps = p.steps ++ [.here] := by
  have hbytes : (p / (⟨[]⟩ : Path)).bytes = p.bytes ++ Path.slash :: [] := by
    rw [Path.bytes_div (by decide), Path.lead, if_neg hlead]
    exact List.append_nil _
  constructor
  · rw [hbytes]
    exact List.append_ne_nil_of_right_ne_nil _ (List.cons_ne_nil _ _)
  · rw [Path.steps, Path.parts, hbytes, split_append_cons, List.map_append]
    rfl

/-- What a path that leads somewhere leads to is at the end of its steps. -/
theorem of_resolve {p : Path} {t : FileTree} (h : top.resolve p = .ok (found, t)) :
    p.bytes ≠ [] ∧ top.follow linkLimit [] p.steps = .ok (.found found) ∧ top.at? found = some t := by
  rw [resolve, locate] at h
  split at h
  · cases h
  · rename_i hne
    cases hfollow : top.follow linkLimit [] p.steps with
    | error e =>
      rw [hfollow] at h
      cases h
    | ok destination =>
      rw [hfollow] at h
      cases destination with
      | missing names rest => cases h
      | found names =>
        have hheld : top.held (.found names) = .ok (found, t) := h
        rw [held] at hheld
        split at hheld
        · rename_i u hat
          cases hheld
          exact ⟨hne, rfl, hat⟩
        · cases hheld

/-- Where a path leads to a file, nothing is to be read at the empty path below it. -/
theorem read_div_empty {p : Path} {entries : List (EntryName × FileTree)}
    (h : (directory entries).resolve p = .ok (found, file bytes)) :
    (directory entries).read (p / (⟨[]⟩ : Path)) = .error .notDirectory := by
  obtain ⟨hne, hfollow, hfile⟩ := of_resolve h
  obtain ⟨⟨name, hlast⟩, hend⟩ := follow_file hfollow hfile ⟨entries, rfl⟩
  have hlead : ¬(p.bytes = [] ∨ p.bytes.getLast? = some Path.slash) := by
    rintro (hempty | hslash)
    · exact hne hempty
    · rw [getLast?_steps hslash] at hlast
      cases hlast
  obtain ⟨hnonempty, hsteps⟩ := steps_div_empty hlead
  rw [read, find, resolve, locate, if_neg hnonempty, hsteps, hend]
  rfl

/-- Bytes that are UTF-8 are read as their text. -/
theorem readText_of_read {p : Path} {text : List Char}
    (hread : top.read p = .ok bytes) (htext : Utf8.decode? bytes = some text) : top.readText p = .ok text := by
  simp only [readText, hread, bind, Except.bind, htext]
  rfl

end FileTree
end ComponentAudit
