import Mathlib.Data.List.Basic
import ComponentAudit.Pattern.Regex

/-!
# Matches of a regular expression

An expression leads from a place of a text to places of the same text that are not before it (`Regex.later_of_mem_ends`), so
what a search finds is a stretch of the text. The search is pinned down by `Regex.find?_eq_some_iff` and
`Regex.find?_eq_none_iff`: it finds the first place from which the expression leads anywhere, and the place that it prefers.
-/

namespace ComponentAudit.Pattern

/-- The place in a text after its first `k` characters. -/
def Cursor.after (s : List Char) (k : Nat) : Cursor :=
  ⟨(s.take k).getLast?, s.drop k, s.length - k⟩

/-- A place of a text that is not before the one after `k` characters. -/
def Cursor.Later (s : List Char) (k : Nat) (c : Cursor) : Prop :=
  ∃ j, k ≤ j ∧ j ≤ s.length ∧ c = .after s j

/-- A step that never goes back in a text, nor out of it. -/
def Forward (s : List Char) (step : Cursor → List Cursor) : Prop :=
  ∀ k ≤ s.length, ∀ e ∈ step (.after s k), Cursor.Later s k e

namespace Cursor

theorem start_eq_after (s : List Char) : start s = after s 0 := by
  simp [start, after]

/-- The character after a place leads to the next place. -/
theorem after_succ {s : List Char} {k : Nat} {x : Char} {rest : List Char} (h : s.drop k = x :: rest) :
    (⟨some x, rest, s.length - k - 1⟩ : Cursor) = after s (k + 1) ∧ k < s.length := by
  have hk : k < s.length := by
    have := congrArg List.length h
    simp only [List.length_drop, List.length_cons] at this
    omega
  have hx : s[k] = x := by
    have := List.getElem_cons_drop hk
    rw [h] at this
    exact (List.cons.inj this).1
  have hrest : s.drop (k + 1) = rest := by
    rw [← List.tail_drop, h, List.tail_cons]
  refine ⟨?_, hk⟩
  rw [after, hrest, List.take_succ_eq_append_getElem hk, List.getLast?_append, hx]
  simp [Nat.sub_sub]

theorem next?_after (s : List Char) (k : Nat) :
    (after s k).next? = if k < s.length then some (after s (k + 1)) else none := by
  unfold next?
  split
  · rename_i h
    rw [if_neg (by simpa [after] using h)]
  · rename_i x rest h
    obtain ⟨heq, hk⟩ := after_succ (s := s) (k := k) h
    rw [if_pos hk, ← heq]
    rfl

/-- Two places of a text that leave the same number of characters are the same. -/
theorem after_inj {s : List Char} {j k : Nat} (hj : j ≤ s.length) (hk : k ≤ s.length) (h : after s j = after s k) :
    j = k := by
  have := congrArg Cursor.left h
  simp only [after] at this
  omega

theorem later_refl {s : List Char} {k : Nat} (hk : k ≤ s.length) : Later s k (after s k) :=
  ⟨k, Nat.le_refl k, hk, rfl⟩

theorem Later.mono {s : List Char} {j k : Nat} {c : Cursor} (hjk : j ≤ k) (h : Later s k c) : Later s j c := by
  obtain ⟨i, hi, hs, rfl⟩ := h
  exact ⟨i, Nat.le_trans hjk hi, hs, rfl⟩

end Cursor

open Cursor

/-! ## What a repetition leads to -/

theorem Found.mem_add {f : Found} {c e : Cursor} (h : e ∈ (f.add c).places) : e = c ∨ e ∈ f.places := by
  unfold Found.add at h
  split at h
  · exact Or.inr h
  · exact List.mem_cons.1 h

/-- Leaving out repetitions adds no place. -/
theorem mem_of_mem_distinct {places : List Cursor} {e : Cursor} (h : e ∈ distinct places) : e ∈ places := by
  have fold : ∀ (l : List Cursor) (f : Found), e ∈ (l.foldl Found.add f).places → e ∈ f.places ∨ e ∈ l := by
    intro l
    induction l with
    | nil => exact fun f h => Or.inl h
    | cons c l ih =>
      intro f h
      rcases ih _ h with h | h
      · rcases Found.mem_add h with rfl | h
        · exact Or.inr (List.mem_cons_self ..)
        · exact Or.inl h
      · exact Or.inr (List.mem_cons_of_mem _ h)
  unfold distinct at h
  split at h
  · exact h
  · exact h
  · rw [Found.toList, List.mem_reverse] at h
    rcases fold _ _ h with h | h
    · exact absurd h (List.not_mem_nil)
    · exact h

/-- The rounds of a repetition only add places that are later than where they start. -/
theorem later_of_mem_rounds {s : List Char} {step : Cursor → List Cursor} (hstep : Forward s step) (greedy : Bool)
    (n : Nat) : ∀ (k : Nat) (found : Found), k ≤ s.length →
      ∀ e ∈ (rounds step greedy n (after s k) found).places, e ∈ found.places ∨ Later s k e := by
  induction n with
  | zero => exact fun k found _ e he => Or.inl he
  | succ n ih =>
    intro k found hk
    -- The fold over the places of one round: each of them is later, and so is what the further rounds add.
    have fold : ∀ (l : List Cursor), (∀ e ∈ l, Later s k e) → ∀ f : Found, (∀ e ∈ f.places, e ∈ found.places ∨ Later s k e) →
        ∀ e ∈ (l.foldl (fun f e => if f.seen.contains e.left then f else if e.left = (after s k).left then f.add e
          else if greedy then (rounds step greedy n e f).add e else rounds step greedy n e (f.add e)) f).places,
          e ∈ found.places ∨ Later s k e := by
      intro l
      induction l with
      | nil => exact fun _ f hf => hf
      | cons c l ihl =>
        intro hl f hf
        have hc : Later s k c := hl c (List.mem_cons_self ..)
        have hadd : ∀ e ∈ (f.add c).places, e ∈ found.places ∨ Later s k e := by
          intro e he
          rcases Found.mem_add he with rfl | he
          · exact Or.inr hc
          · exact hf e he
        rw [List.foldl_cons]
        refine ihl (fun e he => hl e (List.mem_cons_of_mem _ he)) _ ?_
        obtain ⟨j, hj, hjs, rfl⟩ := hc
        intro e he
        split at he
        · exact hf e he
        · split at he
          · exact hadd e he
          · split at he
            · rcases Found.mem_add he with rfl | he
              · exact Or.inr ⟨j, hj, hjs, rfl⟩
              · rcases ih j f hjs e he with he | he
                · exact hf e he
                · exact Or.inr (he.mono hj)
            · rcases ih j _ hjs e he with he | he
              · exact hadd e he
              · exact Or.inr (he.mono hj)
    exact fold _ (hstep k hk) found (fun e he => Or.inl he)

theorem forward_atLeastOnce {s : List Char} {step : Cursor → List Cursor} (hstep : Forward s step) (greedy : Bool) :
    Forward s (atLeastOnce step greedy) := by
  intro k hk e he
  rw [atLeastOnce, Found.toList, List.mem_reverse] at he
  rcases later_of_mem_rounds hstep greedy _ k .empty hk e he with he | he
  · exact absurd he (List.not_mem_nil)
  · exact he

/-- What a forward step leads to from later places is later. -/
theorem later_of_mem_flatMap {s : List Char} {step : Cursor → List Cursor} (hstep : Forward s step) {k : Nat}
    {places : List Cursor} (h : ∀ e ∈ places, Later s k e) : ∀ e ∈ distinct (places.flatMap step), Later s k e := by
  intro e he
  obtain ⟨c, hc, he⟩ := List.mem_flatMap.1 (mem_of_mem_distinct he)
  obtain ⟨j, hj, hjs, rfl⟩ := h c hc
  exact (hstep j hjs e he).mono hj

theorem later_of_mem_exactly {s : List Char} {step : Cursor → List Cursor} (hstep : Forward s step) {k : Nat} (n : Nat) :
    ∀ places : List Cursor, (∀ e ∈ places, Later s k e) → ∀ e ∈ exactly step n places, Later s k e := by
  induction n with
  | zero => exact fun places h => h
  | succ n ih =>
    intro places h
    cases places with
    | nil => exact fun e he => absurd he (List.not_mem_nil)
    | cons c rest => exact ih _ (later_of_mem_flatMap hstep h)

theorem forward_upTo {s : List Char} {step : Cursor → List Cursor} (hstep : Forward s step) (greedy : Bool) (n : Nat) :
    Forward s (upTo step greedy n) := by
  induction n with
  | zero =>
    intro k hk e he
    rw [upTo, List.mem_singleton] at he
    exact he ▸ later_refl hk
  | succ n ih =>
    intro k hk e he
    have more : ∀ e ∈ (step (after s k)).flatMap fun e => if e.left = (after s k).left then [e] else upTo step greedy n e,
        Later s k e := by
      intro e he
      obtain ⟨c, hc, he⟩ := List.mem_flatMap.1 he
      obtain ⟨j, hj, hjs, rfl⟩ := hstep k hk c hc
      split at he
      · rw [List.mem_singleton] at he
        exact ⟨j, hj, hjs, he⟩
      · exact (ih j hjs e he).mono hj
    have he := mem_of_mem_distinct he
    cases greedy with
    | true =>
      rcases List.mem_append.1 he with he | he
      · exact more e he
      · exact List.mem_singleton.1 he ▸ later_refl hk
    | false =>
      rcases List.mem_cons.1 he with rfl | he
      · exact later_refl hk
      · exact more e he

namespace Regex

/-! ## What an expression leads to -/

/-- An expression never leads back in a text, nor out of it. -/
theorem forward_ends (s : List Char) (r : Regex) : Forward s r.ends := by
  induction r with
  | empty =>
    intro k hk e he
    rw [ends, List.mem_singleton] at he
    exact he ▸ later_refl hk
  | set cs =>
    intro k hk e he
    simp only [ends] at he
    split at he
    · rename_i x rest h
      split at he
      · rw [List.mem_singleton] at he
        obtain ⟨heq, hlt⟩ := after_succ (s := s) (k := k) h
        exact ⟨k + 1, Nat.le_succ k, hlt, he.trans heq⟩
      · exact absurd he (List.not_mem_nil)
    · exact absurd he (List.not_mem_nil)
  | look l =>
    intro k hk e he
    simp only [ends] at he
    split at he
    · exact List.mem_singleton.1 he ▸ later_refl hk
    · exact absurd he (List.not_mem_nil)
  | concat a b iha ihb =>
    intro k hk e he
    exact later_of_mem_flatMap ihb (iha k hk) e he
  | either a b iha ihb =>
    intro k hk e he
    rcases List.mem_append.1 (mem_of_mem_distinct he) with he | he
    · exact iha k hk e he
    · exact ihb k hk e he
  | repetition r min max greedy ih =>
    intro k hk e he
    have here : ∀ e ∈ [after s k], Later s k e := fun e he => List.mem_singleton.1 he ▸ later_refl hk
    cases max with
    | some max =>
      rw [ends] at he
      exact later_of_mem_flatMap (forward_upTo ih greedy _) (later_of_mem_exactly ih min _ here) e he
    | none =>
      have more := forward_atLeastOnce ih greedy
      cases min with
      | succ min => exact later_of_mem_flatMap more (later_of_mem_exactly ih min _ here) e he
      | zero =>
        have he := mem_of_mem_distinct he
        cases greedy with
        | true =>
          rcases List.mem_append.1 he with he | he
          · exact more k hk e he
          · exact here e he
        | false =>
          rcases List.mem_cons.1 he with rfl | he
          · exact later_refl hk
          · exact more k hk e he

/-! ## What a search finds -/

/-- A text around a match in it. -/
theorem Match.eq_around (found : Match) (part : List Char) :
    part = part.take found.start ++ (part.drop found.start).take found.length ++
      part.drop (found.start + found.length) := by
  rw [← List.drop_drop, List.append_assoc, List.take_append_drop, List.take_append_drop]

/-- The leftmost match in a text: from no place before it does the expression lead anywhere, and from its start the
expression prefers to lead to its end. -/
structure Leftmost (r : Regex) (s : List Char) (m : Match) : Prop where
  within : m.start + m.length ≤ s.length
  leads : (r.ends (.after s m.start)).head? = some (.after s (m.start + m.length))
  first : ∀ k < m.start, r.ends (.after s k) = []

/-- There is only one leftmost match. -/
theorem Leftmost.unique {r : Regex} {s : List Char} {m m' : Match} (h : r.Leftmost s m) (h' : r.Leftmost s m') :
    m = m' := by
  have notBefore : ∀ {a b : Match}, r.Leftmost s a → r.Leftmost s b → ¬a.start < b.start := by
    intro a b ha hb hlt
    have := ha.leads
    rw [hb.first _ hlt] at this
    cases this
  have hstart : m.start = m'.start := by
    have := notBefore h h'
    have := notBefore h' h
    omega
  have hlead := h.leads
  rw [hstart, h'.leads] at hlead
  have hstop := after_inj h'.within (hstart ▸ h.within) (Option.some.inj hlead)
  cases m
  cases m'
  simp only at hstart hstop
  subst hstart
  simp only [Nat.add_left_cancel_iff] at hstop
  rw [hstop]

/-- A search from a place on finds the first place at or after it from which the expression leads anywhere. -/
theorem findFrom_spec (r : Regex) (s : List Char) (n : Nat) : ∀ k, k ≤ s.length → s.length < n + k →
    match r.findFrom n k (.after s k) with
    | some m => k ≤ m.start ∧ m.start + m.length ≤ s.length ∧
        (r.ends (.after s m.start)).head? = some (.after s (m.start + m.length)) ∧
        ∀ j, k ≤ j → j < m.start → r.ends (.after s j) = []
    | none => ∀ j, k ≤ j → j ≤ s.length → r.ends (.after s j) = [] := by
  induction n with
  | zero =>
    intro k hk hn
    omega
  | succ n ih =>
    intro k hk hn
    rw [findFrom]
    cases hends : r.ends (after s k) with
    | cons e rest =>
      obtain ⟨j, hj, hjs, rfl⟩ := forward_ends s r k hk e (by simp [hends])
      have hlen : k + ((after s k).left - (after s j).left) = j := by
        simp only [after]
        omega
      refine ⟨Nat.le_refl k, ?_, ?_, fun i hi hlt => absurd hlt (Nat.not_lt.2 hi)⟩
      · simp only [hlen]
        exact hjs
      · simp only [hlen, hends, List.head?_cons]
    | nil =>
      simp only [next?_after]
      by_cases hlt : k < s.length
      · have hnext := ih (k + 1) hlt (by omega)
        simp only [hlt, if_true]
        -- Nothing at this place, so what holds of the later places holds from here on.
        split at hnext
        · obtain ⟨hstart, hwithin, hleads, hfirst⟩ := hnext
          refine ⟨by omega, hwithin, hleads, fun j hj hjm => ?_⟩
          rcases Nat.eq_or_lt_of_le hj with rfl | hj
          · exact hends
          · exact hfirst j hj hjm
        · intro j hj hjs
          rcases Nat.eq_or_lt_of_le hj with rfl | hj
          · exact hends
          · exact hnext j hj hjs
      · simp only [hlt, if_false]
        intro j hj hjs
        have : j = k := by omega
        exact this ▸ hends

/-- A search finds a match exactly if it is the leftmost one. -/
theorem find?_eq_some_iff {r : Regex} {s : List Char} {m : Match} : r.find? s = some m ↔ r.Leftmost s m := by
  have found : ∀ {m : Match}, r.find? s = some m → r.Leftmost s m := by
    intro m hm
    have := findFrom_spec r s (s.length + 1) 0 (Nat.zero_le _) (by omega)
    rw [find?, start_eq_after] at hm
    rw [hm] at this
    obtain ⟨-, hwithin, hleads, hfirst⟩ := this
    exact ⟨hwithin, hleads, fun k hk => hfirst k (Nat.zero_le k) hk⟩
  refine ⟨found, fun h => ?_⟩
  cases hm : r.find? s with
  | some m' => rw [(found hm).unique h]
  | none =>
    have := findFrom_spec r s (s.length + 1) 0 (Nat.zero_le _) (by omega)
    rw [find?, start_eq_after] at hm
    rw [hm] at this
    have hleads := h.leads
    rw [this m.start (Nat.zero_le _) (by have := h.within; omega)] at hleads
    cases hleads

/-- A search finds nothing exactly if the expression leads nowhere from any place. -/
theorem find?_eq_none_iff {r : Regex} {s : List Char} :
    r.find? s = none ↔ ∀ k ≤ s.length, r.ends (.after s k) = [] := by
  constructor
  · intro h k hk
    have := findFrom_spec r s (s.length + 1) 0 (Nat.zero_le _) (by omega)
    rw [find?, start_eq_after] at h
    rw [h] at this
    exact this k (Nat.zero_le k) hk
  · intro h
    cases hm : r.find? s with
    | none => rfl
    | some m =>
      have hleft := find?_eq_some_iff.1 hm
      have hleads := hleft.leads
      rw [h m.start (by have := hleft.within; omega)] at hleads
      cases hleads

/-- An expression matches in a text if it leads anywhere from one of its places. -/
def Matches (r : Regex) (s : List Char) : Prop :=
  ∃ k ≤ s.length, r.ends (.after s k) ≠ []

/-- A search finds something exactly if the expression matches. -/
theorem isSome_find?_iff {r : Regex} {s : List Char} : (r.find? s).isSome = true ↔ r.Matches s := by
  rw [Option.isSome_iff_ne_none, Ne, find?_eq_none_iff, Matches]
  simp only [not_forall, exists_prop, ne_eq]

theorem find?_eq_none_iff_not_matches {r : Regex} {s : List Char} : r.find? s = none ↔ ¬r.Matches s := by
  rw [← isSome_find?_iff, Option.isSome_iff_ne_none, not_not]

instance (r : Regex) (s : List Char) : Decidable (r.Matches s) :=
  decidable_of_iff _ isSome_find?_iff

end Regex

end ComponentAudit.Pattern
