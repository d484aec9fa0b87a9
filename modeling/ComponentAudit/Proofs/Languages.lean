import ComponentAudit.Proofs.Spelling

/-!
# The languages of regular expressions

An expression without conditions on what stands around a text spells its language (`Regex.spells_ends`). So a search finds
something exactly if a word of the language stands in the text (`Regex.matches_iff`), and what can be read off an expression
about its words holds of all that a search finds.
-/

namespace ComponentAudit.Pattern

open Cursor

open scoped Computability

variable {s : List Char}

namespace Regex

/-! ## Expressions -/

/-- Whether an expression has no conditions on what stands around a text. -/
def isPlain : Regex → Bool
  | empty | set _ => true
  | look _ => false
  | concat a b | either a b => a.isPlain && b.isPlain
  | repetition r _ _ _ => r.isPlain

/-- The texts that an expression describes. A condition describes no more than the empty text, wherever it holds. -/
def language : Regex → Language Char
  | empty | look _ => 1
  | set cs => {w | ∃ c, cs.contains c = true ∧ w = [c]}
  | concat a b => a.language * b.language
  | either a b => a.language + b.language
  | repetition r min none _ => r.language ^ min * r.language∗
  | repetition r min (some max) _ => r.language ^ min * (1 + r.language) ^ (max - min)

/-- A set spells its characters. -/
theorem spells_set (s : List Char) (cs : Charset) : Spells s (set cs).ends (set cs).language := by
  intro k hk e
  rw [ends, language]
  split
  · rename_i x rest hrest
    obtain ⟨hnext, hlt⟩ := after_succ (s := s) (k := k) hrest
    have hword : between s k (k + 1) = [x] := by
      rw [between, List.drop_take, show s.drop k = x :: rest from hrest, Nat.add_sub_cancel_left]
      rfl
    rw [show (after s k).left = s.length - k from rfl, hnext]
    constructor
    · intro he
      split at he
      · rename_i hx
        exact ⟨k + 1, Nat.le_succ k, hlt, ⟨x, hx, hword⟩, List.mem_singleton.1 he⟩
      · exact absurd he List.not_mem_nil
    · rintro ⟨j, hkj, hj, ⟨c, hc, hchar⟩, rfl⟩
      have hlength := length_between (k := k) hj
      rw [hchar, List.length_singleton] at hlength
      obtain rfl : j = k + 1 := by omega
      obtain rfl : x = c := List.head_eq_of_cons_eq (hword.symm.trans hchar)
      rw [if_pos hc]
      exact List.mem_singleton_self _
  · rename_i hrest
    have hend : s.length ≤ k := List.drop_eq_nil_iff.1 hrest
    refine iff_of_false List.not_mem_nil ?_
    rintro ⟨j, hkj, hj, ⟨c, -, hchar⟩, -⟩
    have hlength := length_between (k := k) hj
    rw [hchar, List.length_singleton] at hlength
    omega

/-- A plain expression leads from one place of a text to another exactly if what stands between them is a word of its
language. -/
theorem spells_ends (s : List Char) : ∀ r : Regex, r.isPlain = true → Spells s r.ends r.language := by
  intro r
  induction r with
  | empty => exact fun _ => spells_stay s
  | set cs => exact fun _ => spells_set s cs
  | look l => exact fun h => absurd h Bool.false_ne_true
  | concat a b iha ihb =>
    intro h
    obtain ⟨ha, hb⟩ := Bool.and_eq_true_iff.1 h
    exact (iha ha).concat (ihb hb)
  | either a b iha ihb =>
    intro h
    obtain ⟨ha, hb⟩ := Bool.and_eq_true_iff.1 h
    exact (iha ha).either (ihb hb)
  | repetition r min max greedy ih =>
    intro h
    have hr : Spells s r.ends r.language := ih h
    cases max with
    | some max =>
      have hbounded := (spells_exactly (spells_stay s) hr min).concat (spells_upTo hr greedy (max - min))
      rw [one_mul] at hbounded
      intro k hk e
      rw [ends]
      exact hbounded k hk e
    | none =>
      cases min with
      | zero =>
        rw [language, pow_zero, one_mul]
        exact spells_anyNumber hr greedy
      | succ min =>
        have hatLeast := (spells_exactly (spells_stay s) hr min).concat (spells_atLeastOnce hr greedy)
        rw [one_mul, ← mul_assoc, ← pow_succ] at hatLeast
        exact hatLeast

/-! ## Sequences and sets -/

theorem language_sequence_cons (r : Regex) (rest : List Regex) :
    (sequence (r :: rest)).language = r.language * (sequence rest).language := by
  cases rest with
  | nil => exact (mul_one r.language).symm
  | cons next rest => rfl

theorem language_sequence_append (rs rs' : List Regex) :
    (sequence (rs ++ rs')).language = (sequence rs).language * (sequence rs').language := by
  induction rs with
  | nil => exact (one_mul _).symm
  | cons r rs ih => rw [List.cons_append, language_sequence_cons, language_sequence_cons, ih, mul_assoc]

/-- So many characters of a set. -/
theorem mem_language_set_pow {cs : Charset} {n : Nat} {w : List Char} :
    w ∈ (set cs).language ^ n ↔ w.length = n ∧ ∀ c ∈ w, cs.contains c = true := by
  induction n generalizing w with
  | zero =>
    rw [pow_zero, Language.mem_one, List.length_eq_zero_iff]
    refine ⟨?_, And.left⟩
    rintro rfl
    exact ⟨rfl, fun c hc => absurd hc List.not_mem_nil⟩
  | succ n ih =>
    rw [pow_succ', Language.mem_mul]
    constructor
    · rintro ⟨_, ⟨c, hc, rfl⟩, v, hv, rfl⟩
      obtain ⟨hlength, hall⟩ := ih.1 hv
      exact ⟨congrArg Nat.succ hlength, List.forall_mem_cons.2 ⟨hc, hall⟩⟩
    · rintro ⟨hlength, hall⟩
      obtain ⟨c, v, rfl⟩ := List.exists_cons_of_length_eq_add_one hlength
      obtain ⟨hc, hall⟩ := List.forall_mem_cons.1 hall
      exact ⟨[c], ⟨c, hc, rfl⟩, v, ih.2 ⟨Nat.succ.inj hlength, hall⟩, rfl⟩

/-- Any number of characters of a set. -/
theorem mem_kstar_language_set {cs : Charset} {w : List Char} :
    w ∈ KStar.kstar (set cs).language ↔ ∀ c ∈ w, cs.contains c = true := by
  rw [Language.kstar_eq_iSup_pow, Language.mem_iSup]
  constructor
  · rintro ⟨n, hw⟩
    exact (mem_language_set_pow.1 hw).2
  · exact fun hall => ⟨w.length, mem_language_set_pow.2 ⟨rfl, hall⟩⟩

/-! ## Matches -/

variable {r : Regex}

/-- A text stands in another one exactly if it is what stands between two places. -/
theorem infix_iff_between {w : List Char} : w <:+: s ↔ ∃ k j, k ≤ j ∧ j ≤ s.length ∧ between s k j = w := by
  constructor
  · rintro ⟨a, b, rfl⟩
    refine ⟨a.length, a.length + w.length, Nat.le_add_right _ _, by simp, ?_⟩
    rw [between, ← List.length_append, List.take_left, List.drop_left]
  · rintro ⟨k, j, -, -, rfl⟩
    have htake := List.take_prefix j s
    exact (List.drop_suffix k _).isInfix.trans htake.isInfix

/-- A plain expression matches in a text exactly if a word of its language stands there. -/
theorem matches_iff (h : r.isPlain = true) : r.Matches s ↔ ∃ w ∈ r.language, w <:+: s := by
  have hspells := spells_ends s r h
  constructor
  · rintro ⟨k, hk, hends⟩
    obtain ⟨e, he⟩ := List.exists_mem_of_ne_nil _ hends
    obtain ⟨j, hkj, hj, hword, -⟩ := (hspells k hk e).1 he
    exact ⟨_, hword, infix_iff_between.2 ⟨k, j, hkj, hj, rfl⟩⟩
  · rintro ⟨w, hword, hw⟩
    obtain ⟨k, j, hkj, hj, rfl⟩ := infix_iff_between.1 hw
    have hk : k ≤ s.length := Nat.le_trans hkj hj
    exact ⟨k, hk, List.ne_nil_of_mem ((hspells.mem_iff hk hj).2 ⟨hkj, hword⟩)⟩

/-! ## What words are made of -/

/-- Whether the empty text may be a word. -/
def isNullable : Regex → Bool
  | empty | look _ => true
  | set _ => false
  | concat a b => a.isNullable && b.isNullable
  | either a b => a.isNullable || b.isNullable
  | repetition r min _ _ => min == 0 || r.isNullable

/-- Whether a character may stand in a word. -/
def mentions (c : Char) : Regex → Bool
  | empty | look _ => false
  | set cs => cs.contains c
  | concat a b | either a b => a.mentions c || b.mentions c
  | repetition r _ _ _ => r.mentions c

/-- Whether a word may end in a character. -/
def endsIn (c : Char) : Regex → Bool
  | empty | look _ => false
  | set cs => cs.contains c
  | concat a b => b.endsIn c || (b.isNullable && a.endsIn c)
  | either a b => a.endsIn c || b.endsIn c
  | repetition r _ _ _ => r.endsIn c

/-- What holds of the empty text, of the words of an expression, and of two texts one after the other if it holds of each, holds
of repetitions. -/
theorem forall_mem_language_repetition {l : Language Char} (hone : [] ∈ l) (hmul : ∀ w ∈ l * l, w ∈ l)
    (h : ∀ w ∈ r.language, w ∈ l) (min : Nat) (max : Option Nat) (greedy : Bool) :
    ∀ w ∈ (repetition r min max greedy).language, w ∈ l := by
  have hone : 1 ≤ l := by
    rintro w rfl
    exact hone
  have hmul : l * l ≤ l := fun w hw => hmul w hw
  have h : r.language ≤ l := fun w hw => h w hw
  have hpow : ∀ {m : Language Char}, m ≤ l → ∀ n, m ^ n ≤ l := by
    intro m hm n
    induction n with
    | zero => exact (pow_zero m).trans_le hone
    | succ n ih => exact (pow_succ m n).trans_le ((mul_le_mul' ih hm).trans hmul)
  cases max with
  | some max => exact (mul_le_mul' (hpow h min) (hpow (sup_le hone h) (max - min))).trans hmul
  | none =>
    have hstar : r.language∗ ≤ l := kstar_le_of_mul_le_left hone ((mul_le_mul' le_rfl h).trans hmul)
    exact (mul_le_mul' (hpow h min) hstar).trans hmul

theorem nil_mem_mul {a b : Language Char} : [] ∈ a * b ↔ [] ∈ a ∧ [] ∈ b := by
  rw [Language.mem_mul]
  constructor
  · rintro ⟨u, hu, v, hv, huv⟩
    obtain ⟨rfl, rfl⟩ := List.append_eq_nil_iff.1 huv
    exact ⟨hu, hv⟩
  · rintro ⟨ha, hb⟩
    exact ⟨[], ha, [], hb, rfl⟩

theorem isNullable_of_nil_mem : ∀ r : Regex, [] ∈ r.language → r.isNullable = true := by
  intro r
  induction r with
  | empty | look _ => exact fun _ => rfl
  | set cs =>
    rintro ⟨c, -, hc⟩
    exact absurd hc.symm (List.cons_ne_nil c [])
  | concat a b iha ihb =>
    intro h
    obtain ⟨ha, hb⟩ := nil_mem_mul.1 h
    exact Bool.and_eq_true_iff.2 ⟨iha ha, ihb hb⟩
  | either a b iha ihb =>
    rintro (h | h)
    · exact Bool.or_eq_true_iff.2 (Or.inl (iha h))
    · exact Bool.or_eq_true_iff.2 (Or.inr (ihb h))
  | repetition r min max greedy ih =>
    intro h
    cases min with
    | zero => rfl
    | succ min =>
      have hpow : [] ∈ r.language ^ (min + 1) := by
        cases max with
        | none => exact (nil_mem_mul.1 h).1
        | some max => exact (nil_mem_mul.1 h).1
      rw [pow_succ'] at hpow
      exact Bool.or_eq_true_iff.2 (Or.inr (ih (nil_mem_mul.1 hpow).1))

/-- An expression that is not nullable has no empty word. -/
theorem ne_nil_of_mem (h : r.isNullable = false) {w : List Char} (hw : w ∈ r.language) : w ≠ [] := by
  rintro rfl
  rw [isNullable_of_nil_mem r hw] at h
  cases h

/-- A character that an expression does not mention stands in no word. -/
theorem not_mem_of_mentions {c : Char} : ∀ r : Regex, r.mentions c = false → ∀ w ∈ r.language, c ∉ w := by
  have append : ∀ {a b : Language Char}, (∀ w ∈ a, c ∉ w) → (∀ w ∈ b, c ∉ w) → ∀ w ∈ a * b, c ∉ w := by
    intro a b ha hb w hw
    obtain ⟨u, hu, v, hv, rfl⟩ := Language.mem_mul.1 hw
    rw [List.mem_append, not_or]
    exact ⟨ha u hu, hb v hv⟩
  intro r
  induction r with
  | empty | look _ =>
    rintro - w rfl
    exact List.not_mem_nil
  | set cs =>
    rintro h w ⟨d, hd, rfl⟩ hmem
    rw [mentions, List.mem_singleton.1 hmem, hd] at h
    cases h
  | concat a b iha ihb =>
    intro h
    obtain ⟨ha, hb⟩ := Bool.or_eq_false_iff.1 h
    exact append (iha ha) (ihb hb)
  | either a b iha ihb =>
    intro h w hw
    obtain ⟨ha, hb⟩ := Bool.or_eq_false_iff.1 h
    rcases hw with hw | hw
    · exact iha ha w hw
    · exact ihb hb w hw
  | repetition r min max greedy ih =>
    intro h
    have hone : [] ∈ ({w | c ∉ w} : Language Char) := List.not_mem_nil
    exact forall_mem_language_repetition hone (append (fun _ h => h) fun _ h => h) (ih h) min max greedy

/-- Where words may not end in a character, they do not. -/
theorem getLast?_ne_of_endsIn {c : Char} : ∀ r : Regex, r.endsIn c = false → ∀ w ∈ r.language, w.getLast? ≠ some c := by
  have append : ∀ {a b : Language Char}, (∀ w ∈ b, w.getLast? ≠ some c) → ([] ∈ b → ∀ w ∈ a, w.getLast? ≠ some c) →
      ∀ w ∈ a * b, w.getLast? ≠ some c := by
    intro a b hb ha w hw
    obtain ⟨u, hu, v, hv, rfl⟩ := Language.mem_mul.1 hw
    by_cases hempty : v = []
    · subst hempty
      rw [List.append_nil]
      exact ha hv u hu
    · rw [List.getLast?_append_of_ne_nil u hempty]
      exact hb v hv
  intro r
  induction r with
  | empty | look _ =>
    rintro - w rfl
    exact fun h => nomatch h
  | set cs =>
    rintro h w ⟨d, hd, rfl⟩ hlast
    obtain rfl : d = c := Option.some.inj hlast
    rw [endsIn, hd] at h
    cases h
  | concat a b iha ihb =>
    intro h
    obtain ⟨hb, ha⟩ := Bool.or_eq_false_iff.1 h
    refine append (ihb hb) fun hempty => iha ?_
    rwa [isNullable_of_nil_mem b hempty, Bool.true_and] at ha
  | either a b iha ihb =>
    intro h w hw
    obtain ⟨ha, hb⟩ := Bool.or_eq_false_iff.1 h
    rcases hw with hw | hw
    · exact iha ha w hw
    · exact ihb hb w hw
  | repetition r min max greedy ih =>
    intro h
    have hone : [] ∈ ({w | w.getLast? ≠ some c} : Language Char) := fun h => nomatch h
    exact forall_mem_language_repetition hone (append (fun _ h => h) fun _ _ h => h) (ih h) min max greedy

end Regex

end ComponentAudit.Pattern
