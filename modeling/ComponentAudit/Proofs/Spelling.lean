import Mathlib.Computability.Language
import Mathlib.Logic.Relation
import ComponentAudit.Proofs.Matching

/-!
# Steps that spell a language

A step of a matcher spells a language if it leads from one place of a text to another exactly if what stands between the two is
a word (`Spells`). Steps one after the other spell products, and steps side by side sums. The repetition is the hard case: it
never looks twice at a place that it has seen, and still finds every place that rounds lead to (`mem_atLeastOnce`), so it spells
the words of one or more rounds (`spells_atLeastOnce`).
-/

namespace ComponentAudit.Pattern

open Cursor

open scoped Computability

/-! ## Places of a text -/

/-- What stands between two places of a text, each given by the number of characters before it. -/
def between (s : List Char) (k j : Nat) : List Char :=
  (s.take j).drop k

/-- A cursor stands at a place of a text. -/
def Cursor.StandsIn (s : List Char) (c : Cursor) : Prop :=
  ∃ j ≤ s.length, c = after s j

/-- How much text is left tells the places of a text apart. -/
theorem Cursor.StandsIn.eq_of_left {s : List Char} {c d : Cursor} (hc : c.StandsIn s) (hd : d.StandsIn s)
    (h : c.left = d.left) : c = d := by
  obtain ⟨i, hi, rfl⟩ := hc
  obtain ⟨j, hj, rfl⟩ := hd
  have hij : i = j := by
    simp only [after] at h
    omega
  rw [hij]

theorem Cursor.Later.standsIn {s : List Char} {k : Nat} {c : Cursor} (h : Later s k c) : c.StandsIn s := by
  obtain ⟨j, -, hj, rfl⟩ := h
  exact ⟨j, hj, rfl⟩

theorem between_self (s : List Char) (k : Nat) : between s k k = [] := by
  simp [between]

theorem length_between {s : List Char} {k j : Nat} (hj : j ≤ s.length) : (between s k j).length = j - k := by
  simp [between, Nat.min_eq_left hj]

theorem between_append_between (s : List Char) {k i j : Nat} (hki : k ≤ i) (hij : i ≤ j) :
    between s k i ++ between s i j = between s k j := by
  have hsplit : s.take j = s.take i ++ (s.take j).drop i := by
    have htake : (s.take j).take i = s.take i := by rw [List.take_take, Nat.min_eq_left hij]
    rw [← htake, List.take_append_drop]
  by_cases hk : k ≤ (s.take i).length
  · rw [between, between, between, hsplit, List.drop_append_of_le_length hk, ← hsplit]
  · have hi : s.length ≤ i := by
      rw [List.length_take] at hk
      omega
    simp only [between, List.take_of_length_le hi, List.take_of_length_le (Nat.le_trans hi hij),
      List.drop_of_length_le hi, List.append_nil]

/-- Where two texts stand one after the other, there is a place between them. -/
theorem exists_between_of_append {s u v : List Char} {k j : Nat} (hkj : k ≤ j) (hj : j ≤ s.length)
    (h : between s k j = u ++ v) : ∃ i, k ≤ i ∧ i ≤ j ∧ between s k i = u ∧ between s i j = v := by
  have hlength := length_between (k := k) hj
  rw [h, List.length_append] at hlength
  refine ⟨k + u.length, Nat.le_add_right _ _, by omega, ?_⟩
  have hsplit := between_append_between s (Nat.le_add_right k u.length) (show k + u.length ≤ j by omega)
  rw [h] at hsplit
  refine List.append_inj hsplit ?_
  rw [length_between (by omega)]
  omega

/-- A step spells a language in a text: it leads from one place to another exactly if what stands between them is a word. -/
def Spells (s : List Char) (step : Cursor → List Cursor) (l : Language Char) : Prop :=
  ∀ k ≤ s.length, ∀ e, e ∈ step (after s k) ↔ ∃ j, k ≤ j ∧ j ≤ s.length ∧ between s k j ∈ l ∧ e = after s j

variable {s : List Char} {step step' : Cursor → List Cursor} {l l' : Language Char}

theorem Spells.forward (h : Spells s step l) : Forward s step := by
  intro k hk e he
  obtain ⟨j, hkj, hj, -, rfl⟩ := (h k hk e).1 he
  exact ⟨j, hkj, hj, rfl⟩

/-- A step spells a language where it leads to the places of its words, told by their distance. -/
theorem Spells.mem_iff (h : Spells s step l) {k j : Nat} (hk : k ≤ s.length) (hj : j ≤ s.length) :
    after s j ∈ step (after s k) ↔ k ≤ j ∧ between s k j ∈ l := by
  rw [h k hk]
  constructor
  · rintro ⟨i, hki, hi, hword, heq⟩
    rw [after_inj hj hi heq]
    exact ⟨hki, hword⟩
  · rintro ⟨hkj, hword⟩
    exact ⟨j, hkj, hj, hword, rfl⟩

/-- A step that stays in a text spells a language if it leads to the places of its words and to no others. -/
theorem spells_of_mem_iff (hforward : Forward s step)
    (h : ∀ k ≤ s.length, ∀ j ≤ s.length, k ≤ j → (after s j ∈ step (after s k) ↔ between s k j ∈ l)) : Spells s step l := by
  intro k hk e
  constructor
  · intro he
    obtain ⟨j, hkj, hj, rfl⟩ := hforward k hk e he
    exact ⟨j, hkj, hj, (h k hk j hj hkj).1 he, rfl⟩
  · rintro ⟨j, hkj, hj, hword, rfl⟩
    exact (h k hk j hj hkj).2 hword

/-! ## Places found -/

namespace Found

/-- What counts as seen is how much text the places leave that were found. -/
def Tracks (f : Found) : Prop :=
  ∀ n, f.seen.contains n = true ↔ ∃ c ∈ f.places, c.left = n

theorem tracks_empty : Found.empty.Tracks := by
  intro n
  simp [empty]

theorem Tracks.add {f : Found} (h : f.Tracks) (c : Cursor) : (f.add c).Tracks := by
  intro n
  unfold Found.add
  by_cases hc : f.seen.contains c.left = true
  · rw [if_pos hc]
    exact h n
  · rw [if_neg hc]
    simp [h n]

/-- Adding a place to places of the same text adds it to the members. -/
theorem mem_add_iff {f : Found} {c e : Cursor} (htracks : f.Tracks) (hplaces : ∀ d ∈ f.places, d.StandsIn s)
    (hc : c.StandsIn s) : e ∈ (f.add c).places ↔ e = c ∨ e ∈ f.places := by
  unfold Found.add
  by_cases hseen : f.seen.contains c.left = true
  · rw [if_pos hseen]
    obtain ⟨d, hd, hleft⟩ := (htracks _).1 hseen
    have hmem : c ∈ f.places := (hplaces d hd).eq_of_left hc hleft ▸ hd
    constructor
    · intro he
      exact Or.inr he
    · rintro (rfl | he)
      · exact hmem
      · exact he
  · rw [if_neg hseen]
    exact List.mem_cons

end Found

/-- The places of a list without repetitions are those that are found one by one. -/
theorem distinct_eq (places : List Cursor) : distinct places = (places.foldl Found.add .empty).toList := by
  unfold distinct
  split
  · rfl
  · simp [Found.add, Found.empty, Found.toList]
  · rfl

/-- Leaving out repetitions leaves out no place of a text. -/
theorem mem_distinct_iff {places : List Cursor} {e : Cursor} (h : ∀ c ∈ places, c.StandsIn s) :
    e ∈ distinct places ↔ e ∈ places := by
  have fold : ∀ (places : List Cursor) (f : Found), (∀ c ∈ places, c.StandsIn s) → f.Tracks →
      (∀ c ∈ f.places, c.StandsIn s) → (e ∈ (places.foldl Found.add f).places ↔ e ∈ f.places ∨ e ∈ places) := by
    intro places
    induction places with
    | nil =>
      intro f _ _ _
      simp
    | cons c places ih =>
      intro f hplaces htracks hfound
      have hc : c.StandsIn s := hplaces c (List.mem_cons_self ..)
      have hadd : ∀ d, d ∈ (f.add c).places ↔ d = c ∨ d ∈ f.places := fun d => Found.mem_add_iff htracks hfound hc
      have hstands : ∀ d ∈ (f.add c).places, d.StandsIn s := by
        intro d hd
        rcases (hadd d).1 hd with rfl | hd
        · exact hc
        · exact hfound d hd
      rw [List.foldl_cons, ih (f.add c) (fun d hd => hplaces d (List.mem_cons_of_mem _ hd)) (htracks.add c) hstands,
        hadd, List.mem_cons]
      tauto
  rw [distinct_eq, Found.toList, List.mem_reverse, fold _ _ h Found.tracks_empty (fun c hc => absurd hc List.not_mem_nil)]
  simp [Found.empty]

/-- What a step leads to from some places of a text, where it stays in the text. -/
theorem mem_distinct_flatMap_iff (hforward : Forward s step) {places : List Cursor} (h : ∀ c ∈ places, c.StandsIn s)
    {e : Cursor} : e ∈ distinct (places.flatMap step) ↔ ∃ c ∈ places, e ∈ step c := by
  rw [mem_distinct_iff (s := s), List.mem_flatMap]
  intro d hd
  obtain ⟨c, hc, hd⟩ := List.mem_flatMap.1 hd
  obtain ⟨k, hk, rfl⟩ := h c hc
  exact (hforward k hk d hd).standsIn

theorem standsIn_of_mem_step (hforward : Forward s step) {k : Nat} (hk : k ≤ s.length) :
    ∀ c ∈ step (after s k), c.StandsIn s :=
  fun c hc => (hforward k hk c hc).standsIn

/-- One step after the other spells the words of the one followed by words of the other. -/
theorem Spells.concat (h : Spells s step l) (h' : Spells s step' l') :
    Spells s (fun c => distinct ((step c).flatMap step')) (l * l') := by
  intro k hk e
  rw [mem_distinct_flatMap_iff h'.forward (standsIn_of_mem_step h.forward hk)]
  constructor
  · rintro ⟨c, hc, he⟩
    obtain ⟨i, hki, hi, hword, rfl⟩ := (h k hk c).1 hc
    obtain ⟨j, hij, hj, hword', rfl⟩ := (h' i hi e).1 he
    refine ⟨j, Nat.le_trans hki hij, hj, ?_, rfl⟩
    rw [← between_append_between s hki hij]
    exact Language.mem_mul.2 ⟨_, hword, _, hword', rfl⟩
  · rintro ⟨j, hkj, hj, hword, rfl⟩
    obtain ⟨u, hu, v, hv, heq⟩ := Language.mem_mul.1 hword
    obtain ⟨i, hki, hij, rfl, rfl⟩ := exists_between_of_append hkj hj heq.symm
    have hi : i ≤ s.length := Nat.le_trans hij hj
    exact ⟨after s i, (h k hk _).2 ⟨i, hki, hi, hu, rfl⟩, (h' i hi _).2 ⟨j, hij, hj, hv, rfl⟩⟩

/-- Either of two steps spells the words of either of two languages. -/
theorem Spells.either (h : Spells s step l) (h' : Spells s step' l') :
    Spells s (fun c => distinct (step c ++ step' c)) (l + l') := by
  intro k hk e
  rw [mem_distinct_iff (s := s), List.mem_append, h k hk, h' k hk, Language.add_def]
  · constructor
    · rintro (⟨j, hkj, hj, hword, rfl⟩ | ⟨j, hkj, hj, hword, rfl⟩)
      · exact ⟨j, hkj, hj, Or.inl hword, rfl⟩
      · exact ⟨j, hkj, hj, Or.inr hword, rfl⟩
    · rintro ⟨j, hkj, hj, hword | hword, rfl⟩
      · exact Or.inl ⟨j, hkj, hj, hword, rfl⟩
      · exact Or.inr ⟨j, hkj, hj, hword, rfl⟩
  · intro c hc
    rcases List.mem_append.1 hc with hc | hc
    · exact standsIn_of_mem_step h.forward hk c hc
    · exact standsIn_of_mem_step h'.forward hk c hc

/-- Staying at a place spells the empty word. -/
theorem spells_stay (s : List Char) : Spells s (fun c => [c]) 1 := by
  intro k hk e
  rw [List.mem_singleton]
  constructor
  · rintro rfl
    exact ⟨k, Nat.le_refl k, hk, Language.mem_one _ |>.2 (between_self s k), rfl⟩
  · rintro ⟨j, hkj, hj, hword, rfl⟩
    have hlength := length_between (k := k) hj
    rw [(Language.mem_one _).1 hword, List.length_nil] at hlength
    have hjk : j = k := by omega
    rw [hjk]

/-! ## Repetitions -/

/-- One place of a round: unless it has been seen, it is found, and so is what further rounds lead to from it. -/
def visit (step : Cursor → List Cursor) (greedy : Bool) (n : Nat) (c : Cursor) (found : Found) (e : Cursor) : Found :=
  if found.seen.contains e.left then found
  else if e.left = c.left then found.add e
  else if greedy then (rounds step greedy n e found).add e
  else rounds step greedy n e (found.add e)

/-- The rounds of a repetition visit the places of one round. -/
theorem rounds_succ (step : Cursor → List Cursor) (greedy : Bool) (n : Nat) (c : Cursor) (found : Found) :
    rounds step greedy (n + 1) c found = (step c).foldl (visit step greedy n c) found :=
  rfl

/-- One or more rounds of a step lead from one place to another. -/
abbrev Leads (step : Cursor → List Cursor) : Cursor → Cursor → Prop :=
  Relation.TransGen fun c e => e ∈ step c

/-- What holds of the places found, and is kept as places are added that rounds lead to, holds after rounds. -/
theorem rounds_invariant {p : Found → Prop} (n : Nat) : ∀ (c : Cursor) (found : Found), p found →
    (∀ f e, Leads step c e → p f → p (f.add e)) → ∀ greedy, p (rounds step greedy n c found) := by
  induction n with
  | zero => exact fun _ _ hfound _ _ => hfound
  | succ n ih =>
    intro c found hfound hadd greedy
    have hvisit : ∀ f, ∀ d ∈ step c, p f → p (visit step greedy n c f d) := by
      intro f d hd hf
      have hlead : Leads step c d := .single hd
      have hfurther : ∀ g e, Leads step d e → p g → p (g.add e) := fun g e he => hadd g e (hlead.trans he)
      unfold visit
      split
      · exact hf
      · split
        · exact hadd f d hlead hf
        · split
          · exact hadd _ d hlead (ih d f hf hfurther _)
          · exact ih d _ (hadd f d hlead hf) hfurther _
    have hfold : ∀ places : List Cursor, (∀ d ∈ places, d ∈ step c) → ∀ f, p f → p (places.foldl (visit step greedy n c) f) := by
      intro places
      induction places with
      | nil => exact fun _ _ hf => hf
      | cons d places ihplaces =>
        intro hplaces f hf
        exact ihplaces (fun x hx => hplaces x (List.mem_cons_of_mem _ hx)) _ (hvisit f d (hplaces d (List.mem_cons_self ..)) hf)
    exact hfold (step c) (fun d hd => hd) found hfound

/-- The rounds of a repetition add only places that rounds lead to. -/
theorem leads_of_mem_rounds (step : Cursor → List Cursor) (greedy : Bool) (n : Nat) (c : Cursor) (found : Found) :
    ∀ e ∈ (rounds step greedy n c found).places, e ∈ found.places ∨ Leads step c e := by
  refine rounds_invariant n c found (p := fun f => ∀ e ∈ f.places, e ∈ found.places ∨ Leads step c e) (fun e => Or.inl) ?_ greedy
  intro f d hd hf e he
  rcases Found.mem_add he with rfl | he
  · exact Or.inr hd
  · exact hf e he

/-- What rounds from a place on keep true of the places found: they stand in the text, and all that one round leads to from a
place beyond the given one has been found. -/
structure Found.Explored (s : List Char) (step : Cursor → List Cursor) (k : Nat) (f : Found) : Prop where
  tracks : f.Tracks
  standsIn : ∀ c ∈ f.places, c.StandsIn s
  closed : ∀ j, k < j → j ≤ s.length → after s j ∈ f.places → ∀ e ∈ step (after s j), e ∈ f.places

namespace Found.Explored

variable {k j : Nat} {f f' : Found}

theorem mono (h : f.Explored s step k) (hkj : k ≤ j) : f.Explored s step j :=
  ⟨h.tracks, h.standsIn, fun i hi => h.closed i (Nat.lt_of_le_of_lt hkj hi)⟩

theorem mem_add (h : f.Explored s step k) (hj : j ≤ s.length) {e : Cursor} :
    e ∈ (f.add (after s j)).places ↔ e = after s j ∨ e ∈ f.places :=
  Found.mem_add_iff h.tracks h.standsIn ⟨j, hj, rfl⟩

/-- A place may be added if it is not beyond the given one, or if all that a round leads to from it has been found. -/
theorem add (h : f.Explored s step k) (hj : j ≤ s.length) (hround : k < j → ∀ e ∈ step (after s j), e ∈ f.places) :
    (f.add (after s j)).Explored s step k := by
  refine ⟨h.tracks.add _, ?_, ?_⟩
  · intro c hc
    rcases (h.mem_add hj).1 hc with rfl | hc
    · exact ⟨j, hj, rfl⟩
    · exact h.standsIn c hc
  · intro i hki hi hmem e he
    rcases (h.mem_add hj).1 hmem with heq | hmem
    · obtain rfl := after_inj hi hj heq
      exact (h.mem_add hj).2 (Or.inr (hround hki e he))
    · exact (h.mem_add hj).2 (Or.inr (h.closed i hki hi hmem e he))

/-- What has been explored beyond a later place, of which all rounds have been found, has been explored beyond an earlier one,
if nothing between the two has been added. -/
theorem extend (h : f.Explored s step k) (hkj : k < j) (h' : f'.Explored s step j) (hsub : ∀ e ∈ f.places, e ∈ f'.places)
    (hround : ∀ e ∈ step (after s j), e ∈ f'.places) (hnew : ∀ e ∈ f'.places, e ∈ f.places ∨ Later s j e) :
    f'.Explored s step k := by
  refine ⟨h'.tracks, h'.standsIn, ?_⟩
  intro i hki hi hmem e he
  rcases Nat.lt_trichotomy i j with hlt | rfl | hlt
  · rcases hnew _ hmem with hold | ⟨i', hji', hi', heq⟩
    · exact hsub e (h.closed i hki hi hold e he)
    · have := after_inj hi hi' heq
      omega
  · exact hround e he
  · exact h'.closed i hlt hi hmem e he

end Found.Explored

/-- A place of a round is found when it is visited, and what has been explored stays explored, if further rounds find all that
they lead to. -/
theorem explored_visit (hstep : Forward s step) (greedy : Bool) (n : Nat) {k j : Nat} {f : Found} (hkj : k ≤ j) (hj : j ≤ s.length)
    (hf : f.Explored s step k)
    (hrounds : ∀ g : Found, k < j → g.Explored s step j → (rounds step greedy n (after s j) g).Explored s step j ∧
      (∀ e ∈ g.places, e ∈ (rounds step greedy n (after s j) g).places) ∧
      ∀ e ∈ step (after s j), e ∈ (rounds step greedy n (after s j) g).places) :
    (visit step greedy n (after s k) f (after s j)).Explored s step k ∧
      (∀ e ∈ f.places, e ∈ (visit step greedy n (after s k) f (after s j)).places) ∧
      after s j ∈ (visit step greedy n (after s k) f (after s j)).places := by
  unfold visit
  by_cases hseen : f.seen.contains (after s j).left = true
  · rw [if_pos hseen]
    obtain ⟨d, hd, hleft⟩ := (hf.tracks _).1 hseen
    have heq : d = after s j := (hf.standsIn d hd).eq_of_left ⟨j, hj, rfl⟩ hleft
    exact ⟨hf, fun e he => he, heq ▸ hd⟩
  rw [if_neg hseen]
  by_cases hleft : (after s j).left = (after s k).left
  · rw [if_pos hleft]
    have hjk : ¬k < j := by
      simp only [after] at hleft
      omega
    exact ⟨hf.add hj fun h => absurd h hjk, fun e he => (hf.mem_add hj).2 (Or.inr he), (hf.mem_add hj).2 (Or.inl rfl)⟩
  rw [if_neg hleft]
  have hlt : k < j := by
    rcases Nat.eq_or_lt_of_le hkj with rfl | hlt
    · exact absurd rfl hleft
    · exact hlt
  cases greedy with
  | true =>
    obtain ⟨hexplored, hkept, hround⟩ := hrounds f hlt (hf.mono hkj)
    have hextended := hf.extend hlt hexplored hkept hround fun e he => later_of_mem_rounds hstep true n j f hj e he
    rw [if_pos rfl]
    exact ⟨hextended.add hj fun _ => hround, fun e he => (hextended.mem_add hj).2 (Or.inr (hkept e he)),
      (hextended.mem_add hj).2 (Or.inl rfl)⟩
  | false =>
    -- The place itself is found first, and counts as explored beyond itself.
    have hadded : (f.add (after s j)).Explored s step j := (hf.mono hkj).add hj fun h => absurd h (Nat.lt_irrefl j)
    obtain ⟨hexplored, hkept, hround⟩ := hrounds (f.add (after s j)) hlt hadded
    have hnew : ∀ e ∈ (rounds step false n (after s j) (f.add (after s j))).places, e ∈ f.places ∨ Later s j e := by
      intro e he
      rcases later_of_mem_rounds hstep false n j _ hj e he with he | he
      · rcases (hf.mem_add hj).1 he with rfl | he
        · exact Or.inr (later_refl hj)
        · exact Or.inl he
      · exact Or.inr he
    have hsub : ∀ e ∈ f.places, e ∈ (rounds step false n (after s j) (f.add (after s j))).places :=
      fun e he => hkept e ((hf.mem_add hj).2 (Or.inr he))
    rw [if_neg Bool.false_ne_true]
    exact ⟨hf.extend hlt hexplored hsub hround hnew, hsub, hkept _ ((hf.mem_add hj).2 (Or.inl rfl))⟩

/-- The rounds of a repetition find all that they lead to: what one round leads to from the place where they start, and what
one leads to from any place found beyond it. -/
theorem explored_rounds (hstep : Forward s step) (greedy : Bool) (n : Nat) : ∀ (k : Nat) (found : Found), k ≤ s.length →
    s.length - k < n → found.Explored s step k →
      (rounds step greedy n (after s k) found).Explored s step k ∧
      (∀ e ∈ found.places, e ∈ (rounds step greedy n (after s k) found).places) ∧
      ∀ e ∈ step (after s k), e ∈ (rounds step greedy n (after s k) found).places := by
  induction n with
  | zero =>
    intro k found _ hn
    omega
  | succ n ih =>
    intro k found hk hn hfound
    have hfold : ∀ places : List Cursor, (∀ e ∈ places, Later s k e) → ∀ f : Found, f.Explored s step k →
        (places.foldl (visit step greedy n (after s k)) f).Explored s step k ∧
        (∀ e ∈ f.places, e ∈ (places.foldl (visit step greedy n (after s k)) f).places) ∧
        ∀ e ∈ places, e ∈ (places.foldl (visit step greedy n (after s k)) f).places := by
      intro places
      induction places with
      | nil =>
        intro _ f hf
        exact ⟨hf, fun e he => he, fun e he => absurd he List.not_mem_nil⟩
      | cons d places ihplaces =>
        intro hplaces f hf
        obtain ⟨j, hkj, hj, rfl⟩ := hplaces d (List.mem_cons_self ..)
        obtain ⟨hvisited, hkept, hmem⟩ := explored_visit hstep greedy n hkj hj hf
          fun g hlt hg => ih j g hj (by omega) hg
        obtain ⟨hexplored, hkept', hmem'⟩ := ihplaces (fun e he => hplaces e (List.mem_cons_of_mem _ he)) _ hvisited
        rw [List.foldl_cons]
        refine ⟨hexplored, fun e he => hkept' e (hkept e he), ?_⟩
        intro e he
        rcases List.mem_cons.1 he with rfl | he
        · exact hkept' _ hmem
        · exact hmem' e he
    rw [rounds_succ]
    exact hfold _ (hstep k hk) found hfound

/-- A repetition finds the places that one or more rounds lead to, and no others. -/
theorem mem_atLeastOnce (hstep : Forward s step) (greedy : Bool) {k : Nat} (hk : k ≤ s.length) {e : Cursor} :
    e ∈ atLeastOnce step greedy (after s k) ↔ Leads step (after s k) e := by
  rw [atLeastOnce, Found.toList, List.mem_reverse]
  constructor
  · intro he
    rcases leads_of_mem_rounds step greedy _ _ _ e he with he | he
    · exact absurd he List.not_mem_nil
    · exact he
  · have hempty : Found.empty.Explored s step k :=
      ⟨Found.tracks_empty, fun c hc => absurd hc List.not_mem_nil, fun j _ _ hc => absurd hc List.not_mem_nil⟩
    obtain ⟨hexplored, -, hround⟩ := explored_rounds hstep greedy _ k .empty hk (Nat.lt_succ_self _) hempty
    intro he
    induction he with
    | single h => exact hround _ h
    | tail _ h ih =>
      -- The last place but one is where the rounds started, or lies beyond it.
      obtain ⟨j, hkj, hj, rfl⟩ := forward_atLeastOnce hstep greedy k hk _ (by rwa [atLeastOnce, Found.toList, List.mem_reverse])
      rcases Nat.eq_or_lt_of_le hkj with rfl | hlt
      · exact hround _ h
      · exact hexplored.closed j hlt hj ih _ h

/-- One or more rounds spell one or more words. -/
theorem spells_atLeastOnce (h : Spells s step l) (greedy : Bool) : Spells s (atLeastOnce step greedy) (l * l∗) := by
  refine spells_of_mem_iff (forward_atLeastOnce h.forward greedy) ?_
  intro k hk j hj hkj
  rw [mem_atLeastOnce h.forward greedy hk]
  have hstar : l * l∗ ≤ l∗ := mul_kstar_le_kstar
  constructor
  · intro hleads
    have hwords : ∀ c, Leads step c (after s j) → ∀ i ≤ s.length, c = after s i → i ≤ j ∧ between s i j ∈ l * l∗ := by
      intro c hc
      induction hc using Relation.TransGen.head_induction_on with
      | single hround =>
        rintro i hi rfl
        obtain ⟨hij, hword⟩ := (h.mem_iff hi hj).1 hround
        exact ⟨hij, Language.mem_mul.2 ⟨_, hword, [], Language.nil_mem_kstar l, List.append_nil _⟩⟩
      | head hround _ ih =>
        rintro i hi rfl
        obtain ⟨i', hii', hi', hword, rfl⟩ := (h i hi _).1 hround
        obtain ⟨hij, hrest⟩ := ih i' hi' rfl
        refine ⟨Nat.le_trans hii' hij, ?_⟩
        rw [← between_append_between s hii' hij]
        exact Language.mem_mul.2 ⟨_, hword, _, hstar hrest, rfl⟩
    exact (hwords _ hleads k hk rfl).2
  · intro hword
    obtain ⟨u, hu, v, hv, heq⟩ := Language.mem_mul.1 hword
    obtain ⟨words, rfl, hwords⟩ := Language.mem_kstar.1 hv
    clear hv hword
    induction words generalizing u k with
    | nil =>
      rw [List.flatten_nil, List.append_nil] at heq
      exact .single ((h.mem_iff hk hj).2 ⟨hkj, heq ▸ hu⟩)
    | cons word words ih =>
      obtain ⟨i, hki, hij, rfl, hrest⟩ := exists_between_of_append hkj hj heq.symm
      have hi : i ≤ s.length := Nat.le_trans hij hj
      have hlead := ih i hi hij word (hwords _ (List.mem_cons_self ..)) (fun w hw => hwords w (List.mem_cons_of_mem _ hw))
        (by rw [hrest, List.flatten_cons])
      exact .head ((h.mem_iff hk hi).2 ⟨hki, hu⟩) hlead

theorem exactly_nil (step : Cursor → List Cursor) (n : Nat) : exactly step n [] = [] := by
  cases n with
  | zero => rfl
  | succ n => rfl

theorem exactly_succ (step : Cursor → List Cursor) (n : Nat) (places : List Cursor) :
    exactly step (n + 1) places = exactly step n (distinct (places.flatMap step)) := by
  cases places with
  | nil => rw [exactly_nil, List.flatMap_nil, distinct, exactly_nil]
  | cons c places => rfl

/-- A number of rounds spells as many words, after what led to where they start. -/
theorem spells_exactly {first : Cursor → List Cursor} {l₀ : Language Char} (hfirst : Spells s first l₀)
    (h : Spells s step l) (n : Nat) : Spells s (fun c => exactly step n (first c)) (l₀ * l ^ n) := by
  induction n generalizing first l₀ with
  | zero =>
    rw [pow_zero, mul_one]
    exact hfirst
  | succ n ih =>
    simp only [exactly_succ]
    rw [pow_succ', ← mul_assoc]
    exact ih (hfirst.concat h)

/-- Some words of a language one after the other, not all of them empty, start with one that is not. -/
theorem exists_word_of_mem_pow {n : Nat} : ∀ {w : List Char}, w ∈ (1 + l) ^ (n + 1) → w ≠ [] →
    ∃ u ∈ l, u ≠ [] ∧ ∃ v ∈ (1 + l) ^ n, w = u ++ v := by
  induction n with
  | zero =>
    intro w hw hne
    rw [zero_add, pow_one] at hw
    rcases hw with hw | hw
    · exact absurd hw hne
    · exact ⟨w, hw, hne, [], rfl, (List.append_nil w).symm⟩
  | succ n ih =>
    intro w hw hne
    rw [pow_succ'] at hw
    obtain ⟨u, hu, v, hv, rfl⟩ := Language.mem_mul.1 hw
    by_cases hempty : u = []
    · subst hempty
      obtain ⟨u, hu, hne, v', hv', heq⟩ := ih hv hne
      refine ⟨u, hu, hne, v', ?_, heq⟩
      rw [pow_succ']
      exact Language.mem_mul.2 ⟨[], Or.inl rfl, v', hv', rfl⟩
    · rcases hu with hu | hu
      · exact absurd hu hempty
      · exact ⟨u, hu, hempty, v, hv, rfl⟩

theorem nil_mem_one_add_pow (l : Language Char) (n : Nat) : [] ∈ (1 + l) ^ n := by
  induction n with
  | zero => rfl
  | succ n ih =>
    rw [pow_succ']
    exact Language.mem_mul.2 ⟨[], Or.inl rfl, [], ih, rfl⟩

/-- A place and what further rounds lead to from it, whichever is preferred. -/
theorem mem_distinct_here_iff {more : List Cursor} {c e : Cursor} (hc : c.StandsIn s) (hmore : ∀ d ∈ more, d.StandsIn s)
    (greedy : Bool) : e ∈ distinct (if greedy then more ++ [c] else c :: more) ↔ e = c ∨ e ∈ more := by
  cases greedy with
  | true =>
    rw [if_pos rfl, mem_distinct_iff (s := s), List.mem_append, List.mem_singleton, or_comm]
    intro d hd
    rcases List.mem_append.1 hd with hd | hd
    · exact hmore d hd
    · exact List.mem_singleton.1 hd ▸ hc
  | false =>
    rw [if_neg Bool.false_ne_true, mem_distinct_iff (s := s), List.mem_cons]
    intro d hd
    rcases List.mem_cons.1 hd with rfl | hd
    · exact hc
    · exact hmore d hd

/-- Staying and one or more rounds spell any number of words. -/
theorem spells_anyNumber (h : Spells s step l) (greedy : Bool) :
    Spells s (fun c => distinct (if greedy then atLeastOnce step greedy c ++ [c] else c :: atLeastOnce step greedy c)) l∗ := by
  have hmore := spells_atLeastOnce h greedy
  rw [← Language.one_add_self_mul_kstar_eq_kstar]
  intro k hk e
  have hplaces := standsIn_of_mem_step hmore.forward hk
  have hfirst := mem_distinct_here_iff (e := e) ⟨k, hk, rfl⟩ hplaces false
  have hlast := mem_distinct_here_iff (e := e) ⟨k, hk, rfl⟩ hplaces greedy
  exact hlast.trans (hfirst.symm.trans ((spells_stay s).either hmore k hk e))

/-- Up to a number of rounds spell up to as many words. A round that goes nowhere ends the repetition, but the empty word adds
nothing to the others either. -/
theorem spells_upTo (h : Spells s step l) (greedy : Bool) (n : Nat) : Spells s (upTo step greedy n) ((1 + l) ^ n) := by
  induction n with
  | zero => exact spells_stay s
  | succ n ih =>
    refine spells_of_mem_iff (forward_upTo h.forward greedy _) ?_
    intro k hk j hj hkj
    have hmore : ∀ c ∈ (step (after s k)).flatMap (fun e => if e.left = (after s k).left then [e] else upTo step greedy n e),
        c.StandsIn s := by
      intro c hc
      obtain ⟨d, hd, hc⟩ := List.mem_flatMap.1 hc
      obtain ⟨i, -, hi, rfl⟩ := h.forward k hk d hd
      split at hc
      · exact ⟨i, hi, List.mem_singleton.1 hc⟩
      · exact (forward_upTo h.forward greedy n i hi c hc).standsIn
    rw [upTo, mem_distinct_here_iff ⟨k, hk, rfl⟩ hmore, List.mem_flatMap]
    constructor
    · rintro (heq | ⟨d, hd, he⟩)
      · rw [after_inj hj hk heq, between_self]
        exact nil_mem_one_add_pow l _
      · obtain ⟨i, hki, hi, hword, rfl⟩ := (h k hk d).1 hd
        rw [pow_succ']
        split at he
        · rw [after_inj hj hi (List.mem_singleton.1 he)]
          exact Language.mem_mul.2 ⟨_, Or.inr hword, [], nil_mem_one_add_pow l n, List.append_nil _⟩
        · obtain ⟨hij, hrest⟩ := (ih.mem_iff hi hj).1 he
          rw [← between_append_between s hki hij]
          exact Language.mem_mul.2 ⟨_, Or.inr hword, _, hrest, rfl⟩
    · intro hword
      by_cases hempty : between s k j = []
      · have hlength := length_between (k := k) hj
        rw [hempty, List.length_nil] at hlength
        have hjk : j = k := by omega
        exact Or.inl (hjk ▸ rfl)
      · obtain ⟨u, hu, hne, v, hv, heq⟩ := exists_word_of_mem_pow hword hempty
        obtain ⟨i, hki, hij, rfl, rfl⟩ := exists_between_of_append hkj hj heq
        have hi : i ≤ s.length := Nat.le_trans hij hj
        refine Or.inr ⟨after s i, (h.mem_iff hk hi).2 ⟨hki, hu⟩, ?_⟩
        have hleft : (after s i).left ≠ (after s k).left := by
          intro hleft
          have hik : i = k := by
            simp only [after] at hleft
            omega
          exact hne (hik ▸ between_self s k)
        rw [if_neg hleft]
        exact (ih.mem_iff hi hj).2 ⟨hij, hv⟩

end ComponentAudit.Pattern
