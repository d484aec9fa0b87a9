import Mathlib.Data.List.Forall2
import ComponentAudit.Proofs.Languages

/-!
# Searches in texts one after the other

What stands around a text makes no difference to a plain expression, as long as no word reaches into it. A place of the text
leads to the same places, in the same order of preference, when more text follows; what follows only adds places beyond the
text (`Regex.correspond_ends`). So where no word stands across the border between two texts, a search in both finds what it
finds in the first one, and else what it finds in the second one (`Regex.find?_append`).
-/

namespace ComponentAudit.Pattern

open Cursor

variable {u : List Char} {step step' : Cursor → List Cursor}

/-! ## Places with more text after them -/

namespace Cursor

/-- The same place in two texts, of which the second one goes on with more text where the first one ends. What stands before
the place may differ. -/
structure Extends (u : List Char) (c c' : Cursor) : Prop where
  fits : c.left = c.rest.length
  rest : c'.rest = c.rest ++ u
  left : c'.left = c.left + u.length

/-- A place that is not within what a text goes on with. -/
def leaves (u : List Char) (c : Cursor) : Bool :=
  u.length ≤ c.left

theorem Extends.fits_right {c c' : Cursor} (h : Extends u c c') : c'.left = c'.rest.length := by
  rw [h.left, h.rest, h.fits, List.length_append]

theorem Extends.leaves_right {c c' : Cursor} (h : Extends u c c') : c'.leaves u = true := by
  rw [leaves, h.left]
  exact decide_eq_true (Nat.le_add_left _ _)

/-- A place of a text that other texts stand around. -/
theorem extends_after (before : List Char) {s : List Char} (u : List Char) {k : Nat} (hk : k ≤ s.length) :
    Extends u (after s k) (after (before ++ (s ++ u)) (before.length + k)) := by
  refine ⟨by simp [after], ?_, ?_⟩
  · simp only [after]
    rw [← List.drop_drop, List.drop_left, List.drop_append_of_le_length hk]
  · simp only [after, List.length_append]
    omega

/-- A place that counts what it leaves is a place of some text. -/
theorem exists_eq_after {c : Cursor} (h : c.left = c.rest.length) : ∃ t k, k ≤ t.length ∧ c = after t k := by
  obtain ⟨before, rest, left⟩ := c
  simp only at h
  subst h
  cases before with
  | none => exact ⟨rest, 0, Nat.zero_le _, by simp [after]⟩
  | some b => exact ⟨b :: rest, 1, by simp, by simp [after]⟩

end Cursor

/-- What a step leads to counts what it leaves, and leaves no more than was left. -/
theorem fits_of_mem (hstep : ∀ t, Forward t step) {c e : Cursor} (hc : c.left = c.rest.length) (he : e ∈ step c) :
    e.left = e.rest.length ∧ e.left ≤ c.left := by
  obtain ⟨t, k, hk, rfl⟩ := exists_eq_after hc
  obtain ⟨j, hkj, hj, rfl⟩ := hstep t k hk e he
  refine ⟨by simp [after], ?_⟩
  simp only [after]
  omega

/-- Steps that stay in texts lead out of what texts go on with as little as out of texts. -/
theorem leaves_eq_false_of_mem (hstep : ∀ t, Forward t step) {c e : Cursor} (hc : c.left = c.rest.length)
    (hbeyond : c.leaves u = false) (he : e ∈ step c) : e.leaves u = false := by
  have hle := (fits_of_mem hstep hc he).2
  rw [leaves, decide_eq_false_iff_not] at hbeyond ⊢
  omega

/-- The places of the one list are those of the other in the same order, where those within what the text goes on with are
left out. -/
def Correspond (u : List Char) (places places' : List Cursor) : Prop :=
  List.Forall₂ (Extends u) places (places'.filter (leaves u))

namespace Correspond

variable {places places' : List Cursor}

theorem map_left (h : Correspond u places places') :
    (places'.filter (leaves u)).map left = places.map fun c => c.left + u.length := by
  rw [← List.forall₂_eq_eq_eq, List.forall₂_map_left_iff, List.forall₂_map_right_iff]
  exact h.flip.imp fun c' c hc => hc.left

theorem nil : Correspond u [] [] :=
  List.Forall₂.nil

theorem singleton {c c' : Cursor} (h : Extends u c c') : Correspond u [c] [c'] := by
  rw [Correspond, List.filter_cons_of_pos h.leaves_right]
  exact .cons h .nil

theorem append {more more' : List Cursor} (h : Correspond u places places') (hmore : Correspond u more more') :
    Correspond u (places ++ more) (places' ++ more') := by
  rw [Correspond, List.filter_append]
  exact List.rel_append h hmore

/-- A place within what the text goes on with makes no difference. -/
theorem cons_beyond {c : Cursor} (hc : c.leaves u = false) : Correspond u places (c :: places') ↔ Correspond u places places' := by
  rw [Correspond, List.filter_cons_of_neg (by rw [hc]; exact Bool.false_ne_true), ← Correspond]

/-- What steps lead to from places that correspond corresponds, if they do not lead back. -/
theorem flatMap {f f' : Cursor → List Cursor} (h : Correspond u places places')
    (hf : ∀ c ∈ places, ∀ c', Extends u c c' → Correspond u (f c) (f' c'))
    (hbeyond : ∀ c ∈ places', c.leaves u = false → ∀ e ∈ f' c, e.leaves u = false) :
    Correspond u (places.flatMap f) (places'.flatMap f') := by
  induction places' generalizing places with
  | nil =>
    cases h
    exact .nil
  | cons c' places' ih =>
    have hrest : ∀ c ∈ places', c.leaves u = false → ∀ e ∈ f' c, e.leaves u = false :=
      fun c hc => hbeyond c (List.mem_cons_of_mem _ hc)
    rw [List.flatMap_cons]
    by_cases hc : c'.leaves u = true
    · rw [Correspond, List.filter_cons_of_pos hc] at h
      cases h with
      | cons hextends h =>
        rw [List.flatMap_cons]
        exact (hf _ (List.mem_cons_self ..) c' hextends).append
          (ih h (fun c hc => hf c (List.mem_cons_of_mem _ hc)) hrest)
    · have hnot : c'.leaves u = false := Bool.not_eq_true _ ▸ hc
      have hnone : (f' c').filter (leaves u) = [] := by
        refine List.filter_eq_nil_iff.2 fun e he => ?_
        rw [hbeyond c' (List.mem_cons_self ..) hnot e he]
        exact Bool.false_ne_true
      rw [Correspond, List.filter_append, hnone, List.nil_append]
      exact ih ((cons_beyond hnot).1 h) hf hrest

end Correspond

/-- Places found in a text and in another one that goes on where the first one ends. -/
structure Found.Corresponds (u : List Char) (f f' : Found) : Prop where
  tracks : f.Tracks
  tracks' : f'.Tracks
  places : Correspond u f.places f'.places

namespace Found.Corresponds

variable {f f' : Found} {c c' : Cursor}

theorem empty : Found.Corresponds u .empty .empty :=
  ⟨tracks_empty, tracks_empty, .nil⟩

/-- A place has been seen in both texts or in none. -/
theorem seen_eq (h : f.Corresponds u f') (hc : Extends u c c') : f'.seen.contains c'.left = f.seen.contains c.left := by
  have hmap := h.places.map_left
  rw [Bool.eq_iff_iff, h.tracks, h.tracks']
  constructor
  · rintro ⟨d', hd', hleft⟩
    have hleaves : d'.leaves u = true := by
      rw [leaves, hleft]
      exact hc.leaves_right
    have hmem : d'.left ∈ (f'.places.filter (leaves u)).map left := List.mem_map_of_mem (List.mem_filter.2 ⟨hd', hleaves⟩)
    rw [hmap, hleft, hc.left] at hmem
    obtain ⟨d, hd, heq⟩ := List.mem_map.1 hmem
    exact ⟨d, hd, Nat.add_right_cancel heq⟩
  · rintro ⟨d, hd, hleft⟩
    have hmem : d.left + u.length ∈ f.places.map fun c => c.left + u.length := List.mem_map_of_mem (f := fun c => c.left + u.length) hd
    rw [← hmap] at hmem
    obtain ⟨d', hd', heq⟩ := List.mem_map.1 hmem
    exact ⟨d', List.mem_of_mem_filter hd', by rw [heq, hleft, hc.left]⟩

theorem add (h : f.Corresponds u f') (hc : Extends u c c') : (f.add c).Corresponds u (f'.add c') := by
  refine ⟨h.tracks.add c, h.tracks'.add c', ?_⟩
  unfold Found.add
  rw [h.seen_eq hc]
  split
  · exact h.places
  · exact (Correspond.singleton hc).append h.places

/-- A place within what the text goes on with may be added. -/
theorem add_beyond (h : f.Corresponds u f') (hc : c'.leaves u = false) : f.Corresponds u (f'.add c') := by
  refine ⟨h.tracks, h.tracks'.add c', ?_⟩
  unfold Found.add
  split
  · exact h.places
  · exact (Correspond.cons_beyond hc).2 h.places

/-- What is found stays in correspondence as places that correspond are visited. -/
theorem foldl {visit visit' : Found → Cursor → Found} {places places' : List Cursor} (hplaces : Correspond u places places')
    (hvisit : ∀ f f', ∀ c ∈ places, ∀ c', Extends u c c' → Found.Corresponds u f f' → (visit f c).Corresponds u (visit' f' c'))
    (hbeyond : ∀ f f', ∀ c ∈ places', c.leaves u = false → Found.Corresponds u f f' → f.Corresponds u (visit' f' c))
    (h : f.Corresponds u f') : (places.foldl visit f).Corresponds u (places'.foldl visit' f') := by
  induction places' generalizing places f f' with
  | nil =>
    cases hplaces
    exact h
  | cons c' places' ih =>
    have hrest : ∀ f f', ∀ c ∈ places', c.leaves u = false → Found.Corresponds u f f' → f.Corresponds u (visit' f' c) :=
      fun f f' c hc => hbeyond f f' c (List.mem_cons_of_mem _ hc)
    rw [List.foldl_cons]
    by_cases hc : c'.leaves u = true
    · rw [Correspond, List.filter_cons_of_pos hc] at hplaces
      cases hplaces with
      | cons hextends hplaces =>
        rw [List.foldl_cons]
        exact ih hplaces (fun f f' c hc => hvisit f f' c (List.mem_cons_of_mem _ hc)) hrest
          (hvisit _ _ _ (List.mem_cons_self ..) c' hextends h)
    · have hnot : c'.leaves u = false := Bool.not_eq_true _ ▸ hc
      exact ih ((Correspond.cons_beyond hnot).1 hplaces) hvisit hrest (hbeyond _ _ c' (List.mem_cons_self ..) hnot h)

theorem toList (h : f.Corresponds u f') : Correspond u f.toList f'.toList := by
  rw [Correspond, Found.toList, Found.toList, List.filter_reverse]
  exact List.rel_reverse h.places

end Found.Corresponds

/-- Places that correspond do so without repetitions. -/
theorem Correspond.distinct {places places' : List Cursor} (h : Correspond u places places') :
    Correspond u (distinct places) (distinct places') := by
  rw [distinct_eq, distinct_eq]
  exact (Found.Corresponds.empty.foldl h (fun _ _ _ _ _ hc hf => hf.add hc) fun _ _ _ _ hc hf => hf.add_beyond hc).toList

/-- A step leads to places that correspond from places that do. -/
def Local (u : List Char) (step : Cursor → List Cursor) : Prop :=
  ∀ c c', Extends u c c' → Correspond u (step c) (step c')

/-! ## Steps -/

namespace Local

theorem concat (hstep' : ∀ t, Forward t step') (hforward : ∀ t, Forward t step) (h : Local u step) (h' : Local u step') :
    Local u fun c => distinct ((step c).flatMap step') := by
  intro c c' hc
  refine (Correspond.flatMap (h c c' hc) (fun d _ d' hd => h' d d' hd) fun d hd hbeyond e he => ?_).distinct
  exact leaves_eq_false_of_mem hstep' (fits_of_mem hforward hc.fits_right hd).1 hbeyond he

theorem either (h : Local u step) (h' : Local u step') : Local u fun c => distinct (step c ++ step' c) :=
  fun c c' hc => ((h c c' hc).append (h' c c' hc)).distinct

theorem stay (u : List Char) : Local u fun c => [c] :=
  fun _ _ hc => .singleton hc

/-- A place and what further rounds lead to from it, whichever is preferred. -/
theorem here {more more' : List Cursor} {c c' : Cursor} (hc : Extends u c c') (hmore : Correspond u more more') (greedy : Bool) :
    Correspond u (distinct (if greedy then more ++ [c] else c :: more)) (distinct (if greedy then more' ++ [c'] else c' :: more')) := by
  cases greedy with
  | true => exact (hmore.append (.singleton hc)).distinct
  | false => exact ((Correspond.singleton hc).append hmore).distinct

/-- Rounds from a place within what the text goes on with find nothing outside it. -/
theorem rounds_beyond (hforward : ∀ t, Forward t step) {f f' : Found} (h : f.Corresponds u f') {c : Cursor}
    (hfits : c.left = c.rest.length) (hbeyond : c.leaves u = false) (greedy : Bool) (n : Nat) :
    f.Corresponds u (rounds step greedy n c f') := by
  have hleads : ∀ e, Leads step c e → e.left = e.rest.length ∧ e.leaves u = false := by
    intro e he
    induction he with
    | single he => exact ⟨(fits_of_mem hforward hfits he).1, leaves_eq_false_of_mem hforward hfits hbeyond he⟩
    | tail _ he ih => exact ⟨(fits_of_mem hforward ih.1 he).1, leaves_eq_false_of_mem hforward ih.1 ih.2 he⟩
  exact rounds_invariant n c f' (p := f.Corresponds u) h (fun g e he hg => hg.add_beyond (hleads e he).2) greedy

/-- Rounds find places that correspond, as long as they are not cut off. -/
theorem rounds (hforward : ∀ t, Forward t step) (h : Local u step) (greedy : Bool) (n : Nat) : ∀ (n' : Nat) (c c' : Cursor)
    (f f' : Found), Extends u c c' → c.left < n → c'.left < n' → f.Corresponds u f' →
      (rounds step greedy n c f).Corresponds u (rounds step greedy n' c' f') := by
  induction n with
  | zero =>
    intro n' c c' f f' _ hn
    exact absurd hn (Nat.not_lt_zero _)
  | succ n ih =>
    intro n' c c' f f' hc hn hn' hf
    cases n' with
    | zero => exact absurd hn' (Nat.not_lt_zero _)
    | succ n' =>
      rw [rounds_succ, rounds_succ]
      refine Found.Corresponds.foldl (h c c' hc) ?_ ?_ hf
      · intro g g' d hd d' hextends hg
        have hsame : d'.left = c'.left ↔ d.left = c.left := by rw [hextends.left, hc.left, Nat.add_right_cancel_iff]
        have hd := (fits_of_mem hforward hc.fits hd).2
        unfold visit
        rw [hg.seen_eq hextends]
        simp only [hsame]
        split
        · exact hg
        · split
          · exact hg.add hextends
          · have hlt : d.left < n := by omega
            have hlt' : d'.left < n' := by
              rw [hextends.left]
              rw [hc.left] at hn'
              omega
            split
            · exact (ih n' d d' g g' hextends hlt hlt' hg).add hextends
            · exact ih n' d d' _ _ hextends hlt hlt' (hg.add hextends)
      · intro g g' d hd hbeyond hg
        have hfits := (fits_of_mem hforward hc.fits_right hd).1
        unfold visit
        split
        · exact hg
        · split
          · exact hg.add_beyond hbeyond
          · split
            · exact (rounds_beyond hforward hg hfits hbeyond greedy n').add_beyond hbeyond
            · exact rounds_beyond hforward (hg.add_beyond hbeyond) hfits hbeyond greedy n'

theorem atLeastOnce (hforward : ∀ t, Forward t step) (h : Local u step) (greedy : Bool) : Local u (atLeastOnce step greedy) :=
  fun c c' hc => (rounds hforward h greedy _ _ c c' _ _ hc (Nat.lt_succ_self _) (Nat.lt_succ_self _) .empty).toList

theorem exactly (hforward : ∀ t, Forward t step) (h : Local u step) {first : Cursor → List Cursor}
    (hfirst : ∀ t, Forward t first) (hlocal : Local u first) (n : Nat) : Local u fun c => exactly step n (first c) := by
  induction n generalizing first with
  | zero => exact hlocal
  | succ n ih =>
    simp only [exactly_succ]
    refine ih (fun t k hk => ?_) (hlocal.concat hforward hfirst h)
    exact later_of_mem_flatMap (hforward t) (hfirst t k hk)

theorem upTo (hforward : ∀ t, Forward t step) (h : Local u step) (greedy : Bool) (n : Nat) : Local u (upTo step greedy n) := by
  induction n with
  | zero => exact stay u
  | succ n ih =>
    intro c c' hc
    refine here hc (Correspond.flatMap (h c c' hc) ?_ ?_) greedy
    · intro d _ d' hd
      have hsame : d'.left = c'.left ↔ d.left = c.left := by rw [hd.left, hc.left, Nat.add_right_cancel_iff]
      simp only [hsame]
      split
      · exact .singleton hd
      · exact ih d d' hd
    · intro d hd hbeyond e he
      split at he
      · rwa [List.mem_singleton.1 he]
      · exact leaves_eq_false_of_mem (fun t => forward_upTo (hforward t) greedy n) (fits_of_mem hforward hc.fits_right hd).1
          hbeyond he

end Local

namespace Regex

variable {r : Regex} {s : List Char}

theorem local_set (u : List Char) (cs : Charset) : Local u (set cs).ends := by
  rintro ⟨before, rest, left⟩ ⟨before', rest', left'⟩ ⟨hfits, hrest, hleft⟩
  simp only at hfits hrest hleft
  subst hfits hrest hleft
  cases rest with
  | cons x rest =>
    by_cases hx : cs.contains x = true
    · simp only [ends, List.cons_append, hx, if_true]
      refine .singleton ⟨rfl, rfl, ?_⟩
      simp only [List.length_cons]
      omega
    · simp only [ends, List.cons_append, hx]
      exact .nil
  | nil =>
    cases u with
    | nil => exact .nil
    | cons x u =>
      by_cases hx : cs.contains x = true
      · simp only [ends, List.nil_append, hx, if_true]
        refine (Correspond.cons_beyond ?_).2 .nil
        simp [leaves]
      · simp only [ends, List.nil_append, hx]
        exact .nil

/-- A plain expression leads to the same places of a text, in the same order, whatever stands around the text. -/
theorem local_ends (u : List Char) : ∀ r : Regex, r.isPlain = true → Local u r.ends := by
  intro r
  induction r with
  | empty => exact fun _ => Local.stay u
  | set cs => exact fun _ => local_set u cs
  | look l => exact fun h => absurd h Bool.false_ne_true
  | concat a b iha ihb =>
    intro h
    obtain ⟨ha, hb⟩ := Bool.and_eq_true_iff.1 h
    exact (iha ha).concat (fun t => forward_ends t b) (fun t => forward_ends t a) (ihb hb)
  | either a b iha ihb =>
    intro h
    obtain ⟨ha, hb⟩ := Bool.and_eq_true_iff.1 h
    exact (iha ha).either (ihb hb)
  | repetition r min max greedy ih =>
    intro h
    have hr : Local u r.ends := ih h
    have hforward : ∀ t, Forward t r.ends := fun t => forward_ends t r
    have hfirst : ∀ n t, Forward t fun c => exactly r.ends n [c] := fun n t k hk =>
      later_of_mem_exactly (hforward t) n _ fun e he => List.mem_singleton.1 he ▸ later_refl hk
    have hexactly : ∀ n, Local u fun c => exactly r.ends n [c] :=
      hr.exactly hforward (fun t k hk e he => List.mem_singleton.1 he ▸ later_refl hk) (Local.stay u)
    cases max with
    | some max =>
      have hbounded := (hexactly min).concat (fun t => forward_upTo (hforward t) greedy (max - min)) (hfirst min)
        (hr.upTo hforward greedy (max - min))
      intro c c' hc
      rw [ends, ends]
      exact hbounded c c' hc
    | none =>
      have hmore := hr.atLeastOnce hforward greedy
      cases min with
      | zero => exact fun c c' hc => Local.here hc (hmore c c' hc) greedy
      | succ min => exact (hexactly min).concat (fun t => forward_atLeastOnce (hforward t) greedy) (hfirst min) hmore

/-! ## Searches -/

/-- No word stands across the border between two texts. -/
def Separates (r : Regex) (s u : List Char) : Prop :=
  ∀ a b, a <:+ s → b <+: u → a ++ b ∈ r.language → a = [] ∨ b = []

/-- Places of a text are told apart by how much of it they leave. -/
theorem head?_ends_eq_iff {k j : Nat} (hk : k ≤ s.length) (hj : j ≤ s.length) :
    (r.ends (after s k)).head? = some (after s j) ↔ ((r.ends (after s k)).map left).head? = some (s.length - j) := by
  rw [List.head?_map, Option.map_eq_some_iff]
  constructor
  · intro h
    exact ⟨_, h, rfl⟩
  · rintro ⟨e, he, hleft⟩
    obtain ⟨i, -, hi, rfl⟩ := forward_ends s r k hk e (List.mem_of_head? he)
    have hij : i = j := by
      simp only [after] at hleft
      omega
    rw [he, hij]

/-- Before the border between two texts, an expression leads to the same places as in the first text alone. -/
theorem map_left_ends_append (hplain : r.isPlain = true) {u : List Char} (hseparates : r.Separates s u) {k : Nat} (hk : k < s.length) :
    (r.ends (after (s ++ u) k)).map left = (r.ends (after s k)).map fun c => c.left + u.length := by
  have hextends := extends_after [] (s := s) u (Nat.le_of_lt hk)
  rw [List.nil_append, List.length_nil, Nat.zero_add] at hextends
  rw [← (local_ends u r hplain _ _ hextends).map_left, List.filter_eq_self.2]
  intro e he
  -- A place beyond the border would end a word that stands across it.
  have hle : k ≤ (s ++ u).length := by
    rw [List.length_append]
    omega
  obtain ⟨j, hkj, hj, hword, rfl⟩ := (spells_ends (s ++ u) r hplain k hle e).1 he
  rw [leaves]
  refine decide_eq_true ?_
  simp only [after]
  by_contra hbeyond
  rw [List.length_append] at hj hbeyond
  have hsj : s.length ≤ j := by omega
  have hsplit : between (s ++ u) k j = s.drop k ++ u.take (j - s.length) := by
    rw [between, List.take_append, List.take_of_length_le hsj, List.drop_append_of_le_length (Nat.le_of_lt hk)]
  rw [hsplit] at hword
  have htake := List.take_prefix (j - s.length) u
  rcases hseparates _ _ (List.drop_suffix k s) htake hword with hnil | hnil
  · rw [List.drop_eq_nil_iff] at hnil
    omega
  · rw [List.take_eq_nil_iff] at hnil
    rcases hnil with hnil | rfl
    · omega
    · simp only [List.length_nil] at hj hbeyond
      omega

/-- After the border between two texts, an expression leads to the same places as in the second text alone. -/
theorem map_left_ends_drop (hplain : r.isPlain = true) (s : List Char) {u : List Char} {k : Nat} (hk : k ≤ u.length) :
    (r.ends (after (s ++ u) (s.length + k))).map left = (r.ends (after u k)).map left := by
  have hextends := extends_after s [] hk
  rw [List.append_nil] at hextends
  have hmap := (local_ends [] r hplain _ _ hextends).map_left
  have hall : ∀ e ∈ r.ends (after (s ++ u) (s.length + k)), leaves [] e = true := fun e _ => decide_eq_true (Nat.zero_le e.left)
  rw [List.filter_eq_self.2 hall] at hmap
  exact hmap

/-- At the end of a text an expression without an empty word leads nowhere. -/
theorem ends_length_eq_nil (hplain : r.isPlain = true) (hnull : r.isNullable = false) (s : List Char) :
    r.ends (after s s.length) = [] := by
  refine List.eq_nil_iff_forall_not_mem.2 fun e he => ?_
  obtain ⟨j, hkj, hj, hword, rfl⟩ := (spells_ends s r hplain s.length (Nat.le_refl _) e).1 he
  obtain rfl : j = s.length := Nat.le_antisymm hj hkj
  exact ne_nil_of_mem hnull hword (between_self s _)

/-- A match that is not empty starts before the end of the text. -/
theorem Leftmost.start_lt {m : Match} (h : r.Leftmost s m) (hplain : r.isPlain = true) (hnull : r.isNullable = false) :
    m.start < s.length := by
  have hwithin := h.within
  by_contra hnot
  have hlast : m.start = s.length := by omega
  have hleads := h.leads
  rw [hlast, ends_length_eq_nil hplain hnull] at hleads
  cases hleads

section Border

variable {u : List Char}

/-- Where no match starts in the first of two texts, none starts in both. -/
theorem ends_append_eq_nil (hplain : r.isPlain = true) (hseparates : r.Separates s u) {k : Nat} (hk : k < s.length)
    (h : r.ends (after s k) = []) : r.ends (after (s ++ u) k) = [] := by
  have hmap := map_left_ends_append hplain hseparates hk
  rw [h, List.map_nil] at hmap
  exact List.map_eq_nil_iff.1 hmap

/-- Where no match starts in the second of two texts, none starts in both. -/
theorem ends_drop_eq_nil (hplain : r.isPlain = true) (s : List Char) {k : Nat} (hk : k ≤ u.length)
    (h : r.ends (after u k) = []) : r.ends (after (s ++ u) (s.length + k)) = [] := by
  have hmap := map_left_ends_drop hplain s hk
  rw [h, List.map_nil] at hmap
  exact List.map_eq_nil_iff.1 hmap

/-- Where no match starts in the first of two texts, nor among the first places of the second, none starts up to there. -/
theorem ends_eq_nil_of_parts (hplain : r.isPlain = true) (hseparates : r.Separates s u)
    (hfirst : ∀ k ≤ s.length, r.ends (after s k) = []) {n : Nat} (hn : n ≤ u.length + 1)
    (hsecond : ∀ k < n, r.ends (after u k) = []) : ∀ k < s.length + n, r.ends (after (s ++ u) k) = [] := by
  intro k hk
  by_cases hlt : k < s.length
  · exact ends_append_eq_nil hplain hseparates hlt (hfirst k (Nat.le_of_lt hlt))
  · obtain ⟨i, rfl⟩ := Nat.exists_eq_add_of_le (Nat.le_of_not_lt hlt)
    exact ends_drop_eq_nil hplain s (by omega) (hsecond i (by omega))

/-- The leftmost match in the first of two texts is the leftmost one in both. -/
theorem Leftmost.append {m : Match} (h : r.Leftmost s m) (hplain : r.isPlain = true) (hnull : r.isNullable = false)
    (hseparates : r.Separates s u) : r.Leftmost (s ++ u) m := by
  have hwithin := h.within
  have hstart := h.start_lt hplain hnull
  have hlength : (s ++ u).length = s.length + u.length := List.length_append
  refine ⟨by omega, ?_, fun k hk => ends_append_eq_nil hplain hseparates (by omega) (h.first k hk)⟩
  have hleads := (head?_ends_eq_iff (Nat.le_of_lt hstart) hwithin).1 h.leads
  rw [head?_ends_eq_iff (by omega) (by omega), map_left_ends_append hplain hseparates hstart, List.head?_map]
  rw [List.head?_map, Option.map_eq_some_iff] at hleads
  obtain ⟨e, he, heleft⟩ := hleads
  rw [he, Option.map_some, heleft, Option.some.injEq]
  omega

/-- Where the first of two texts has no match, the leftmost one in the second is the leftmost one in both. -/
theorem Leftmost.behind {m : Match} (h : r.Leftmost u m) (hplain : r.isPlain = true) (hseparates : r.Separates s u)
    (hfirst : ∀ k ≤ s.length, r.ends (after s k) = []) : r.Leftmost (s ++ u) ⟨s.length + m.start, m.length⟩ := by
  have hwithin := h.within
  have hlength : (s ++ u).length = s.length + u.length := List.length_append
  have hleads := (head?_ends_eq_iff (by omega) hwithin).1 h.leads
  refine
    { within := by simp only [hlength]; omega
      leads := ?_
      first := ends_eq_nil_of_parts hplain hseparates hfirst (by omega) h.first }
  simp only
  rw [head?_ends_eq_iff (by omega) (by omega), map_left_ends_drop hplain s (by omega), hleads, hlength, Option.some.injEq]
  omega

end Border

/-- A search in two texts, across the border of which no word stands, finds what it finds in the first one, and else what it
finds in the second one. -/
theorem find?_append (hplain : r.isPlain = true) (hnull : r.isNullable = false) {u : List Char} (hseparates : r.Separates s u) :
    r.find? (s ++ u) = (r.find? s).or ((r.find? u).map fun m => ⟨s.length + m.start, m.length⟩) := by
  cases hs : r.find? s with
  | some m => exact find?_eq_some_iff.2 ((find?_eq_some_iff.1 hs).append hplain hnull hseparates)
  | none =>
    have hfirst := find?_eq_none_iff.1 hs
    rw [Option.none_or]
    cases hu : r.find? u with
    | some m => exact find?_eq_some_iff.2 ((find?_eq_some_iff.1 hu).behind hplain hseparates hfirst)
    | none =>
      have hsecond := find?_eq_none_iff.1 hu
      refine find?_eq_none_iff.2 fun k hk => ?_
      rw [List.length_append] at hk
      exact ends_eq_nil_of_parts hplain hseparates hfirst (Nat.le_refl _) (fun k hk => hsecond k (by omega)) k (by omega)

end Regex

end ComponentAudit.Pattern
