import Mathlib.Computability.Language
import Mathlib.Data.List.TakeWhile
import ComponentAudit.Template

/-!
# The grammar of declarations

A component declaration is what a regular expression describes: the keyword, perhaps a receiver, an identifier, parameters and
an opening brace, with white space between (`declaration`). Each step of the reader takes what one part of the expression
takes, and leaves the rest: white space and identifiers are taken as far as they go, which is no loss because no character of
an identifier is white space (`isIdentifierPart_of_isBlank`). So the reader accepts a text exactly if it starts with a
declaration (`opensDeclaration_iff`), and the check of declarations tells whether a line that opens with the keyword starts
one (`checkDeclarations_markers`).
-/

namespace ComponentAudit

open Text

/-! ## White space is no part of identifiers -/

namespace Text

namespace Ranges

/-- A search that finds something ends at a range that holds the code point. -/
theorem exists_of_search {ranges : Ranges} {code low high : Nat} (h : ranges.search code low high = true) :
    ∃ r ∈ ranges, r.1 ≤ code ∧ code ≤ r.2 := by
  fun_induction search ranges code low high with
  | case1 => cases h
  | case2 low high _ middle first last hget hlt ih => exact ih h
  | case3 low high _ middle first last hget hlt hgt ih => exact ih h
  | case4 low high _ middle first last hget hlt hgt =>
    exact ⟨_, Array.mem_of_getElem? hget, Nat.le_of_not_lt hlt, Nat.le_of_not_lt hgt⟩
  | case5 => cases h

/-- A line of the notation has no range that holds one of some code points. -/
def Avoids (codes : List Nat) (line : String) : Prop :=
  ∀ r ∈ (words line).map range, ∀ code ∈ codes, code < r.1 ∨ r.2 < code

/-- A line is looked at character by character. -/
theorem avoids_ofList {codes : List Nat} (line : List Char)
    (h : ∀ r ∈ ((line.splitOnP (· = ' ')).filter (· ≠ [])).map range, ∀ code ∈ codes, code < r.1 ∨ r.2 < code) :
    Avoids codes (String.ofList line) := by
  rw [Avoids, words, String.toList_ofList]
  exact h

theorem contains_ofText_eq_false {codes : List Nat} {lines : List String} {code : Nat}
    (h : ∀ line ∈ lines, Avoids codes line) (hcode : code ∈ codes) : (ofText lines).contains code = false := by
  rw [← Bool.not_eq_true]
  intro hcontains
  obtain ⟨r, hr, hlow, hhigh⟩ := exists_of_search hcontains
  rw [ofText, List.mem_toArray, List.mem_map] at hr
  obtain ⟨word, hword, rfl⟩ := hr
  obtain ⟨line, hline, hword⟩ := List.mem_flatMap.1 hword
  have hoff := h line hline _ (List.mem_map_of_mem hword) code hcode
  omega

end Ranges

variable {c : Char}

/-- The code points of white space beyond ASCII. -/
def blankCodes : List Nat :=
  [0x85, 0xA0, 0x1680] ++ List.range' 0x2000 11 ++ [0x2028, 0x2029, 0x202F, 0x205F, 0x3000]

/-- White space is in ASCII and not beyond the space, or it has one of those code points. -/
theorem code_of_isBlank (h : isBlank c = true) : c.toNat ≤ 0x20 ∨ c.toNat ∈ blankCodes := by
  simp only [isBlank, Bool.or_eq_true, Bool.and_eq_true, decide_eq_true_eq, beq_iff_eq] at h
  simp only [blankCodes, List.mem_append, List.mem_cons, List.mem_range'_1, List.not_mem_nil, or_false]
  omega

/-- The first letter and the first digit of ASCII come after the space. -/
theorem not_letter_of_le (h : c.toNat ≤ 0x20) : c.isAlpha = false ∧ c.isDigit = false := by
  have hall : ∀ n ≤ 0x20, (Char.ofNat n).isAlpha = false ∧ (Char.ofNat n).isDigit = false := by decide
  have hc := hall c.toNat h
  rwa [Char.ofNat_toNat] at hc

theorem not_mem_blankCodes_of_lt (h : c.toNat < 128) : c.toNat ∉ blankCodes := by
  simp only [blankCodes, List.mem_append, List.mem_cons, List.mem_range'_1, List.not_mem_nil, or_false]
  omega

/-- No letter is white space. -/
theorem isAlphabetic_of_isBlank (h : isBlank c = true) : isAlphabetic c = false := by
  unfold isAlphabetic
  rcases code_of_isBlank h with hle | hcode
  · rw [if_pos (by omega)]
    exact (not_letter_of_le hle).1
  · rw [if_neg fun hlt => not_mem_blankCodes_of_lt hlt hcode]
    refine Ranges.contains_ofText_eq_false ?_ hcode
    simp only [List.forall_mem_cons]
    repeat' apply And.intro
    all_goals first
      | exact Ranges.avoids_ofList _ (by decide +kernel)
      | exact nofun

/-- No sign for a number is white space. -/
theorem isNumeric_of_isBlank (h : isBlank c = true) : isNumeric c = false := by
  unfold isNumeric
  rcases code_of_isBlank h with hle | hcode
  · rw [if_pos (by omega)]
    exact (not_letter_of_le hle).2
  · rw [if_neg fun hlt => not_mem_blankCodes_of_lt hlt hcode]
    refine Ranges.contains_ofText_eq_false ?_ hcode
    simp only [List.forall_mem_cons]
    repeat' apply And.intro
    all_goals first
      | exact Ranges.avoids_ofList _ (by decide +kernel)
      | exact nofun

end Text

namespace Template

/-- White space ends an identifier. -/
theorem isIdentifierPart_of_isBlank {c : Char} (h : isBlank c = true) : isIdentifierPart c = false := by
  have hne : c ≠ '_' := by
    rintro rfl
    exact absurd h (by decide)
  rw [isIdentifierPart, isAlphanumeric, isAlphabetic_of_isBlank h, isNumeric_of_isBlank h]
  simpa using hne

/-! ## The grammar -/

open Computability

/-- A character of white space. -/
def blank : Language Char :=
  {w | ∃ c, isBlank c = true ∧ w = [c]}

/-- Parentheses around a text without a closing one. -/
def enclosed : Language Char :=
  {w | ∃ inner, ')' ∉ inner ∧ w = '(' :: inner ++ [')']}

/-- A letter or an underscore, and letters, numbers and underscores after it. -/
def identifier : Language Char :=
  {w | ∃ c rest, isIdentifierStart c = true ∧ (∀ d ∈ rest, isIdentifierPart d = true) ∧ w = c :: rest}

/-- What a line has to open with that is to be a declaration. -/
def opener : Language Char :=
  blank∗ * {keyword} * blank

/-- A declaration up to its opening brace. -/
def declaration : Language Char :=
  blank∗ * {keyword} * (blank * blank∗) * (1 + enclosed * blank∗) * identifier * blank∗ * enclosed * blank∗ * {['{']}

/-- A text starts with a word of a language, and the rest follows. -/
def Follows (l : Language Char) (s rest : List Char) : Prop :=
  ∃ w ∈ l, s = w ++ rest

section Follows

variable {l m : Language Char} {s rest : List Char}

theorem follows_mul : Follows (l * m) s rest ↔ ∃ between, Follows l s between ∧ Follows m between rest := by
  constructor
  · rintro ⟨w, hw, rfl⟩
    obtain ⟨u, hu, v, hv, rfl⟩ := Language.mem_mul.1 hw
    exact ⟨v ++ rest, ⟨u, hu, List.append_assoc ..⟩, v, hv, rfl⟩
  · rintro ⟨between, ⟨u, hu, rfl⟩, v, hv, rfl⟩
    exact ⟨u ++ v, Language.mem_mul.2 ⟨u, hu, v, hv, rfl⟩, (List.append_assoc ..).symm⟩

theorem follows_add : Follows (l + m) s rest ↔ Follows l s rest ∨ Follows m s rest := by
  constructor
  · rintro ⟨w, hw, rfl⟩
    rcases (Language.mem_add l m w).1 hw with hw | hw
    · exact Or.inl ⟨w, hw, rfl⟩
    · exact Or.inr ⟨w, hw, rfl⟩
  · rintro (⟨w, hw, rfl⟩ | ⟨w, hw, rfl⟩)
    · exact ⟨w, (Language.mem_add l m w).2 (Or.inl hw), rfl⟩
    · exact ⟨w, (Language.mem_add l m w).2 (Or.inr hw), rfl⟩

theorem follows_one : Follows 1 s rest ↔ s = rest := by
  constructor
  · rintro ⟨w, hw, rfl⟩
    rw [(Language.mem_one w).1 hw, List.nil_append]
  · rintro rfl
    exact ⟨[], (Language.mem_one _).2 rfl, rfl⟩

theorem follows_singleton {w : List Char} : Follows {w} s rest ↔ s = w ++ rest :=
  ⟨fun ⟨_, hw, hs⟩ => hs.trans (congrArg (· ++ rest) hw), fun hs => ⟨w, rfl, hs⟩⟩

/-- Some white space is all white space. -/
theorem follows_blanks : Follows blank∗ s rest ↔ ∃ w, (∀ c ∈ w, isBlank c = true) ∧ s = w ++ rest := by
  constructor
  · rintro ⟨w, hw, rfl⟩
    obtain ⟨words, rfl, hwords⟩ := Language.mem_kstar.1 hw
    refine ⟨_, fun c hc => ?_, rfl⟩
    obtain ⟨word, hword, hc⟩ := List.mem_flatten.1 hc
    obtain ⟨d, hd, rfl⟩ := hwords word hword
    exact List.mem_singleton.1 hc ▸ hd
  · rintro ⟨w, hw, rfl⟩
    refine ⟨w, Language.mem_kstar.2 ⟨w.map fun c => [c], ?_, fun word hword => ?_⟩, rfl⟩
    · rw [← List.flatMap_def, List.flatMap_singleton']
    · obtain ⟨c, hc, rfl⟩ := List.mem_map.1 hword
      exact ⟨c, hw c hc, rfl⟩

/-- A text has a word of a language at its start exactly if something follows one. -/
theorem exists_prefix_iff : (∃ w ∈ l, w <+: s) ↔ ∃ rest, Follows l s rest :=
  ⟨fun ⟨w, hw, rest, hs⟩ => ⟨rest, w, hw, hs.symm⟩, fun ⟨rest, w, hw, hs⟩ => ⟨w, hw, rest, hs.symm⟩⟩

end Follows

/-! ## The steps of the reader -/

section Steps

variable {s t rest : List Char} {c : Char}

/-- What is dropped ends where what follows is not to be dropped. -/
theorem dropWhile_append {p : Char → Bool} {w : List Char} (hw : ∀ d ∈ w, p d = true)
    (hrest : ∀ d ∈ rest.head?, p d = false) : (w ++ rest).dropWhile p = rest := by
  rw [List.dropWhile_append_of_pos hw]
  cases rest with
  | nil => rfl
  | cons d rest => exact List.dropWhile_cons_of_neg (by simp [hrest d rfl])

/-- What is dropped from a text, and what is left of it. -/
theorem exists_dropWhile (p : Char → Bool) (s : List Char) :
    ∃ w, (∀ d ∈ w, p d = true) ∧ s = w ++ s.dropWhile p ∧ ∀ d ∈ (s.dropWhile p).head?, p d = false := by
  refine ⟨s.takeWhile p, fun d hd => List.mem_takeWhile_imp hd, (List.takeWhile_append_dropWhile).symm, fun d hd => ?_⟩
  have hhead := List.head?_dropWhile_not p s
  rw [Option.mem_def.1 hd] at hhead
  simpa using hhead

/-- White space before a character of another kind is trimmed. -/
theorem trimStart_eq_cons_iff (hc : isBlank c = false) : trimStart s = c :: rest ↔ Follows blank∗ s (c :: rest) := by
  rw [follows_blanks, trimStart]
  constructor
  · intro h
    obtain ⟨w, hw, hs, -⟩ := exists_dropWhile isBlank s
    exact ⟨w, hw, h ▸ hs⟩
  · rintro ⟨w, hw, rfl⟩
    exact dropWhile_append hw fun d hd => Option.some.inj hd ▸ hc

/-- The keyword is read after white space, and more white space has to follow. -/
theorem afterKeyword?_eq_some_iff : afterKeyword? s = some t ↔
    Follows (blank∗ * {keyword}) s t ∧ ∃ c rest, isBlank c = true ∧ t = c :: rest := by
  have htrim : ∀ t, trimStart s = keyword ++ t ↔ Follows blank∗ s (keyword ++ t) :=
    fun t => trimStart_eq_cons_iff (c := 't') (by decide)
  have hread : afterKeyword? s = some t ↔ trimStart s = keyword ++ t ∧ ∃ c rest, isBlank c = true ∧ t = c :: rest := by
    unfold afterKeyword?
    simp only
    constructor
    · intro h
      split at h
      · rename_i hprefix
        obtain ⟨u, hu⟩ := List.isPrefixOf_iff_prefix.1 hprefix
        rw [← hu, List.drop_left] at h
        split at h
        · rename_i c rest
          split at h
          · rename_i hc
            obtain rfl := Option.some.inj h
            exact ⟨hu.symm, c, rest, hc, rfl⟩
          · cases h
        · cases h
      · cases h
    · rintro ⟨hs, c, rest, hc, rfl⟩
      rw [hs, if_pos (List.isPrefixOf_iff_prefix.2 (List.prefix_append _ _)), List.drop_left]
      exact if_pos hc
  rw [hread, htrim, follows_mul]
  simp only [follows_singleton, exists_eq_right]

/-- What follows the first closing parenthesis. -/
theorem afterClosing?_eq_some_iff : afterClosing? s = some t ↔ ∃ inner, ')' ∉ inner ∧ s = inner ++ ')' :: t := by
  unfold afterClosing?
  constructor
  · intro h
    obtain ⟨inner, hinner, hs, hhead⟩ := exists_dropWhile (· ≠ ')') s
    split at h
    · rename_i c rest hdrop
      obtain rfl := Option.some.inj h
      obtain rfl : c = ')' := by simpa using hhead c (by rw [hdrop]; rfl)
      exact ⟨inner, fun hmem => by simpa using hinner _ hmem, hdrop ▸ hs⟩
    · cases h
  · rintro ⟨inner, hinner, rfl⟩
    have hdrop : (inner ++ ')' :: t).dropWhile (· ≠ ')') = ')' :: t :=
      dropWhile_append (fun d hd => by simpa using fun heq : d = ')' => hinner (heq ▸ hd)) (by simp)
    rw [hdrop]

theorem follows_enclosed : Follows enclosed s t ↔ ∃ rest, s = '(' :: rest ∧ afterClosing? rest = some t := by
  simp only [afterClosing?_eq_some_iff]
  constructor
  · rintro ⟨w, ⟨inner, hinner, rfl⟩, rfl⟩
    exact ⟨inner ++ ')' :: t, by simp, inner, hinner, rfl⟩
  · rintro ⟨_, rfl, inner, hinner, rfl⟩
    exact ⟨_, ⟨inner, hinner, rfl⟩, by simp⟩

/-- Parameters are read after white space. -/
theorem afterParameters?_eq_some_iff : afterParameters? s = some t ↔ Follows (blank∗ * enclosed) s t := by
  have hread : afterParameters? s = some t ↔ ∃ rest, trimStart s = '(' :: rest ∧ afterClosing? rest = some t := by
    unfold afterParameters?
    split
    · rename_i rest htrim
      simp [htrim]
    · rename_i hother
      exact iff_of_false nofun fun ⟨rest, htrim, _⟩ => hother rest htrim
  rw [hread, follows_mul]
  simp only [trimStart_eq_cons_iff (show isBlank '(' = false by decide), follows_enclosed]
  constructor
  · rintro ⟨rest, hs, ht⟩
    exact ⟨_, hs, rest, rfl, ht⟩
  · rintro ⟨_, hs, rest, rfl, ht⟩
    exact ⟨rest, hs, ht⟩

/-- A character that opens an identifier may stand in it. -/
theorem isIdentifierPart_of_start (h : isIdentifierStart c = true) : isIdentifierPart c = true := by
  rw [isIdentifierStart, Bool.or_eq_true] at h
  rw [isIdentifierPart, isAlphanumeric, Bool.or_eq_true, Bool.or_eq_true]
  exact h.imp_left Or.inl

/-- An identifier is read as far as it goes. -/
theorem afterIdentifier?_eq_some_iff : afterIdentifier? s = some t ↔
    Follows identifier s t ∧ ∀ d ∈ t.head?, isIdentifierPart d = false := by
  constructor
  · intro h
    cases s with
    | nil => cases h
    | cons c rest =>
      rw [afterIdentifier?] at h
      split at h
      · rename_i hstart
        obtain rfl := Option.some.inj h
        rw [List.dropWhile_cons_of_pos (isIdentifierPart_of_start hstart)]
        obtain ⟨w, hw, hs, hhead⟩ := exists_dropWhile isIdentifierPart rest
        exact ⟨⟨c :: w, ⟨c, w, hstart, hw, rfl⟩, congrArg (c :: ·) hs⟩, hhead⟩
      · cases h
  · rintro ⟨⟨_, ⟨c, w, hstart, hw, rfl⟩, rfl⟩, hhead⟩
    have hdrop : (c :: w ++ t).dropWhile isIdentifierPart = t :=
      dropWhile_append (List.forall_mem_cons.2 ⟨isIdentifierPart_of_start hstart, hw⟩) hhead
    rw [List.cons_append, afterIdentifier?, if_pos hstart]
    exact congrArg some hdrop

/-- White space before a receiver makes no difference. -/
theorem afterReceiver?_cons (hc : isBlank c = true) : afterReceiver? (c :: s) = afterReceiver? s := by
  have htrim : trimStart (c :: s) = trimStart s := List.dropWhile_cons_of_pos hc
  rw [afterReceiver?, afterReceiver?, htrim]

/-- A receiver, if there is one, is read with the white space around it, where an identifier follows. -/
theorem afterReceiver?_eq_some_iff (hc : isIdentifierStart c = true) :
    afterReceiver? s = some (c :: t) ↔ Follows (blank∗ * (1 + enclosed * blank∗)) s (c :: t) := by
  have hblank : isBlank c = false := by
    rw [← Bool.not_eq_true]
    intro hblank
    have hpart := isIdentifierPart_of_isBlank hblank
    rw [isIdentifierPart_of_start hc] at hpart
    cases hpart
  simp only [follows_mul, follows_add, follows_one, follows_enclosed]
  unfold afterReceiver?
  constructor
  · intro h
    split at h
    · rename_i rest htrim
      obtain ⟨u, hu, htrim'⟩ := Option.map_eq_some_iff.1 h
      exact ⟨_, (trimStart_eq_cons_iff (by decide)).1 htrim, Or.inr ⟨u, ⟨rest, rfl, hu⟩, (trimStart_eq_cons_iff hblank).1 htrim'⟩⟩
    · exact ⟨_, (trimStart_eq_cons_iff hblank).1 (Option.some.inj h), Or.inl rfl⟩
  · rintro ⟨between, hs, rfl | ⟨u, ⟨rest, rfl, hu⟩, hblanks⟩⟩
    · rw [(trimStart_eq_cons_iff hblank).2 hs]
      split
      · rename_i heq
        obtain rfl := (List.cons.inj heq).1
        exact absurd hc (by decide)
      · rfl
    · rw [(trimStart_eq_cons_iff (by decide)).2 hs]
      simp only [hu, Option.map_some, (trimStart_eq_cons_iff hblank).2 hblanks]

end Steps

/-! ## Declarations -/

/-- What the parts of a declaration take, one after the other. -/
theorem follows_declaration {s rest : List Char} : Follows declaration s rest ↔
    ∃ a b c d, Follows (blank∗ * {keyword}) s a ∧ Follows (blank * (blank∗ * (1 + enclosed * blank∗))) a b ∧
      Follows identifier b c ∧ Follows (blank∗ * enclosed) c d ∧ Follows (blank∗ * {['{']}) d rest := by
  have hparts : declaration = (blank∗ * {keyword}) * (blank * (blank∗ * (1 + enclosed * blank∗))) * identifier *
      (blank∗ * enclosed) * (blank∗ * {['{']}) := by
    simp only [declaration, mul_assoc]
  rw [hparts, follows_mul]
  constructor
  · rintro ⟨d, h, hd⟩
    obtain ⟨c, h, hc⟩ := follows_mul.1 h
    obtain ⟨b, h, hb⟩ := follows_mul.1 h
    obtain ⟨a, h, ha⟩ := follows_mul.1 h
    exact ⟨a, b, c, d, h, ha, hb, hc, hd⟩
  · rintro ⟨a, b, c, d, h, ha, hb, hc, hd⟩
    exact ⟨d, follows_mul.2 ⟨c, follows_mul.2 ⟨b, follows_mul.2 ⟨a, h, ha⟩, hb⟩, hc⟩, hd⟩

theorem opensDeclaration_iff_steps {s : List Char} : opensDeclaration s = true ↔
    ∃ a b c d rest, afterKeyword? s = some a ∧ afterReceiver? a = some b ∧ afterIdentifier? b = some c ∧
      afterParameters? c = some d ∧ trimStart d = '{' :: rest := by
  unfold opensDeclaration
  constructor
  · intro h
    split at h
    · rename_i d hd
      obtain ⟨c, hc, hparameters⟩ := Option.bind_eq_some_iff.1 hd
      obtain ⟨b, hb, hidentifier⟩ := Option.bind_eq_some_iff.1 hc
      obtain ⟨a, ha, hreceiver⟩ := Option.bind_eq_some_iff.1 hb
      obtain ⟨rest, hrest⟩ := List.head?_eq_some_iff.1 (beq_iff_eq.1 h)
      exact ⟨a, b, c, d, rest, ha, hreceiver, hidentifier, hparameters, hrest⟩
    · cases h
  · rintro ⟨a, b, c, d, rest, ha, hb, hc, hd, hrest⟩
    simp only [ha, Option.bind_some, hb, hc, hd, hrest, List.head?_cons, beq_self_eq_true]

/-- What ends an identifier: white space, or the parenthesis that opens the parameters. -/
theorem head_of_follows_parameters {s t : List Char} (h : Follows (blank∗ * enclosed) s t) :
    ∀ d ∈ s.head?, isIdentifierPart d = false := by
  obtain ⟨between, hblanks, henclosed⟩ := follows_mul.1 h
  obtain ⟨w, hw, rfl⟩ := follows_blanks.1 hblanks
  obtain ⟨rest, rfl, -⟩ := follows_enclosed.1 henclosed
  intro d hd
  cases w with
  | nil =>
    obtain rfl := Option.some.inj hd
    decide
  | cons c w =>
    obtain rfl := Option.some.inj hd
    exact isIdentifierPart_of_isBlank (hw c (List.mem_cons_self ..))

/-- The reader accepts a text exactly if it starts with a declaration. -/
theorem opensDeclaration_iff {s : List Char} : opensDeclaration s = true ↔ ∃ w ∈ declaration, w <+: s := by
  rw [opensDeclaration_iff_steps, exists_prefix_iff]
  simp only [follows_declaration]
  constructor
  · rintro ⟨a, b, c, d, rest, ha, hb, hc, hd, hrest⟩
    obtain ⟨hkeyword, first, a', hblank, rfl⟩ := afterKeyword?_eq_some_iff.1 ha
    obtain ⟨hidentifier, -⟩ := afterIdentifier?_eq_some_iff.1 hc
    have hidentifier' := hidentifier
    obtain ⟨_, ⟨start, name, hstart, -, rfl⟩, rfl⟩ := hidentifier'
    rw [afterReceiver?_cons hblank, List.cons_append, afterReceiver?_eq_some_iff hstart] at hb
    refine ⟨rest, _, _, c, d, hkeyword, follows_mul.2 ⟨a', ⟨[first], ⟨first, hblank, rfl⟩, rfl⟩, hb⟩, hidentifier,
      afterParameters?_eq_some_iff.1 hd, follows_mul.2 ⟨_, (trimStart_eq_cons_iff (by decide)).1 hrest, ?_⟩⟩
    exact follows_singleton.2 rfl
  · rintro ⟨rest, a, b, c, d, hkeyword, hspace, hidentifier, hparameters, hbody⟩
    obtain ⟨a', ⟨_, ⟨first, hblank, rfl⟩, rfl⟩, hreceiver⟩ := follows_mul.1 hspace
    obtain ⟨between, hblanks, hbrace⟩ := follows_mul.1 hbody
    obtain rfl := follows_singleton.1 hbrace
    have hname := afterIdentifier?_eq_some_iff.2 ⟨hidentifier, head_of_follows_parameters hparameters⟩
    obtain ⟨_, ⟨start, name, hstart, -, rfl⟩, rfl⟩ := hidentifier
    refine ⟨_, _, c, d, rest, afterKeyword?_eq_some_iff.2 ⟨hkeyword, first, a', hblank, rfl⟩, ?_, hname,
      afterParameters?_eq_some_iff.2 hparameters, (trimStart_eq_cons_iff (by decide)).2 hblanks⟩
    rw [List.singleton_append, afterReceiver?_cons hblank]
    exact (afterReceiver?_eq_some_iff hstart).2 hreceiver

/-! ## Lines that open with the keyword -/

/-- A line of a text, with its number, the line feed that ends it, and what comes after it. -/
structure LineIn (s : List Char) (number : Nat) (line after : List Char) : Prop where
  stands : ∃ before, s = before ++ (line ++ after) ∧ (before = [] ∨ ∃ earlier, before = earlier ++ ['\n']) ∧
    number = before.count '\n' + 1
  ends : (∃ body, '\n' ∉ body ∧ line = body ++ ['\n']) ∨ '\n' ∉ line ∧ after = []

/-- A line of a text that opens with the keyword. -/
def Marker (s : List Char) (number : Nat) (line after : List Char) : Prop :=
  LineIn s number line after ∧ ∃ w ∈ opener, w <+: line

/-- The number of the first line of a text that opens with the keyword. -/
structure FirstMarker (s : List Char) (number : Nat) : Prop where
  marker : ∃ line after, Marker s number line after
  first : ∀ number' line after, Marker s number' line after → number ≤ number'

section Markers

variable {s t line after : List Char} {n number : Nat}

/-- A text falls into its first line and what comes after that. -/
theorem firstLine_eq_iff : (∃ after, t = line ++ after ∧
    ((∃ body, '\n' ∉ body ∧ line = body ++ ['\n']) ∨ '\n' ∉ line ∧ after = [])) ↔ firstLine t = line := by
  have hkept : ∀ {w : List Char}, '\n' ∉ w → ∀ d ∈ w, decide (d ≠ '\n') = true :=
    fun hw d hd => decide_eq_true fun heq => hw (heq ▸ hd)
  unfold firstLine
  constructor
  · rintro ⟨after, rfl, ⟨body, hbody, rfl⟩ | ⟨hline, rfl⟩⟩
    · rw [List.append_assoc, List.takeWhile_append_of_pos (hkept hbody), List.dropWhile_append_of_pos (hkept hbody)]
      simp
    · rw [List.append_nil, List.takeWhile_eq_self_iff.2 (hkept hline), List.dropWhile_eq_nil_iff.2 (hkept hline)]
      simp
  · rintro rfl
    have hwhole : '\n' ∉ t.takeWhile (· ≠ '\n') := fun hmem => by simpa using List.mem_takeWhile_imp hmem
    have ht := List.takeWhile_append_dropWhile (p := (· ≠ '\n')) (l := t)
    cases hdrop : t.dropWhile (· ≠ '\n') with
    | nil =>
      rw [hdrop] at ht
      rw [List.take_nil]
      exact ⟨[], by rw [ht, List.append_nil], Or.inr ⟨by rwa [List.append_nil], rfl⟩⟩
    | cons c rest =>
      have hhead := List.head?_dropWhile_not (· ≠ '\n') t
      rw [hdrop] at ht hhead
      obtain rfl : c = '\n' := by simpa using hhead
      refine ⟨rest, ?_, Or.inl ⟨_, hwhole, rfl⟩⟩
      rw [List.take_succ_cons, List.take_zero, List.append_assoc, List.singleton_append, ht]

theorem mem_go : (n, t) ∈ fromLines.go number s ↔ ∃ body, s = body ++ '\n' :: t ∧ n = number + body.count '\n' + 1 := by
  induction s generalizing number with
  | nil => simp [fromLines.go]
  | cons c s ih =>
    rw [fromLines.go]
    split
    · rename_i hc
      subst hc
      rw [List.mem_cons, ih, Prod.mk.injEq]
      constructor
      · rintro (⟨rfl, rfl⟩ | ⟨body, rfl, rfl⟩)
        · exact ⟨[], rfl, rfl⟩
        · exact ⟨'\n' :: body, rfl, by rw [List.count_cons_self]; omega⟩
      · rintro ⟨body, hs, rfl⟩
        cases body with
        | nil => exact Or.inl ⟨rfl, (List.cons.inj hs).2.symm⟩
        | cons d body =>
          obtain ⟨rfl, rfl⟩ := List.cons.inj hs
          exact Or.inr ⟨body, rfl, by rw [List.count_cons_self]; omega⟩
    · rename_i hc
      rw [ih]
      constructor
      · rintro ⟨body, rfl, rfl⟩
        exact ⟨c :: body, rfl, by rw [List.count_cons_of_ne hc]⟩
      · rintro ⟨body, hs, rfl⟩
        cases body with
        | nil => exact absurd (List.cons.inj hs).1 hc
        | cons d body =>
          obtain ⟨rfl, rfl⟩ := List.cons.inj hs
          exact ⟨body, rfl, by rw [List.count_cons_of_ne hc]⟩

/-- The texts from the starts of lines on, with the numbers of the lines. -/
theorem mem_fromLines : (n, t) ∈ fromLines 1 s ↔
    ∃ before, s = before ++ t ∧ (before = [] ∨ ∃ earlier, before = earlier ++ ['\n']) ∧ n = before.count '\n' + 1 := by
  rw [fromLines, List.mem_cons, mem_go, Prod.mk.injEq]
  constructor
  · rintro (⟨rfl, rfl⟩ | ⟨body, rfl, rfl⟩)
    · exact ⟨[], rfl, Or.inl rfl, rfl⟩
    · refine ⟨body ++ ['\n'], by simp, Or.inr ⟨body, rfl⟩, ?_⟩
      rw [List.count_append, List.count_singleton_self]
      omega
  · rintro ⟨_, rfl, rfl | ⟨body, rfl⟩, rfl⟩
    · exact Or.inl ⟨rfl, rfl⟩
    · refine Or.inr ⟨body, by simp, ?_⟩
      rw [List.count_append, List.count_singleton_self]
      omega

theorem pairwise_fromLines (number : Nat) (s : List Char) : (fromLines number s).Pairwise fun a b => a.1 < b.1 := by
  have hgo : ∀ number, (fromLines.go number s).Pairwise fun a b => a.1 < b.1 := by
    induction s with
    | nil => exact fun _ => .nil
    | cons c s ih =>
      intro number
      rw [fromLines.go]
      split
      · refine List.pairwise_cons.2 ⟨fun ⟨n, t⟩ h => ?_, ih _⟩
        obtain ⟨body, -, rfl⟩ := mem_go.1 h
        show number + 1 < _
        omega
      · exact ih _
  refine List.pairwise_cons.2 ⟨fun ⟨n, t⟩ h => ?_, hgo number⟩
  obtain ⟨body, -, rfl⟩ := mem_go.1 h
  show number < _
  omega

/-- A line opens with the keyword exactly if it starts as a declaration has to. -/
theorem isMarker_iff : isMarker t = true ↔ ∃ w ∈ opener, w <+: firstLine t := by
  rw [isMarker, Option.isSome_iff_exists, exists_prefix_iff]
  simp only [afterKeyword?_eq_some_iff, opener, follows_mul (l := blank∗ * {keyword})]
  constructor
  · rintro ⟨_, hkeyword, c, rest, hc, rfl⟩
    exact ⟨rest, _, hkeyword, [c], ⟨c, hc, rfl⟩, rfl⟩
  · rintro ⟨rest, _, hkeyword, _, ⟨c, hc, rfl⟩, rfl⟩
    exact ⟨_, hkeyword, c, rest, hc, rfl⟩

/-- The markers that the check goes through are the lines that open with the keyword. -/
theorem mem_markers : (n, t) ∈ markers s ↔ ∃ line after, Marker s n line after ∧ t = line ++ after := by
  rw [markers, List.mem_filter, mem_fromLines, isMarker_iff]
  constructor
  · rintro ⟨⟨before, hs, hbefore, hn⟩, hopens⟩
    obtain ⟨after, ht, hends⟩ := firstLine_eq_iff.2 (rfl : firstLine t = _)
    exact ⟨_, after, ⟨⟨⟨before, ht ▸ hs, hbefore, hn⟩, hends⟩, hopens⟩, ht⟩
  · rintro ⟨line, after, ⟨⟨⟨before, hs, hbefore, hn⟩, hends⟩, hopens⟩, rfl⟩
    rw [firstLine_eq_iff.1 ⟨after, rfl, hends⟩]
    exact ⟨⟨before, hs, hbefore, hn⟩, hopens⟩

/-- A declaration starts in a line that opens with the keyword exactly if the reader finds one there. -/
theorem any_markers : ((markers s).any fun entry => opensDeclaration entry.2) = true ↔
    ∃ number line after, Marker s number line after ∧ ∃ w ∈ declaration, w <+: line ++ after := by
  rw [List.any_eq_true]
  constructor
  · rintro ⟨⟨n, t⟩, hmem, hopens⟩
    obtain ⟨line, after, hmarker, rfl⟩ := mem_markers.1 hmem
    exact ⟨n, line, after, hmarker, opensDeclaration_iff.1 hopens⟩
  · rintro ⟨n, line, after, hmarker, hopens⟩
    exact ⟨(n, line ++ after), mem_markers.2 ⟨line, after, hmarker, rfl⟩, opensDeclaration_iff.2 hopens⟩

theorem markers_eq_nil_iff : markers s = [] ↔ ¬∃ number line after, Marker s number line after := by
  rw [List.eq_nil_iff_forall_not_mem]
  constructor
  · rintro h ⟨n, line, after, hmarker⟩
    exact h _ (mem_markers.2 ⟨line, after, hmarker, rfl⟩)
  · rintro h ⟨n, t⟩ hmem
    obtain ⟨line, after, hmarker, -⟩ := mem_markers.1 hmem
    exact h ⟨n, line, after, hmarker⟩

/-- The first of the markers that the check goes through has the number of the first one. -/
theorem firstMarker_iff {first : Nat × List Char} {others : List (Nat × List Char)} (h : markers s = first :: others) :
    FirstMarker s n ↔ n = first.1 := by
  have hascending : (first :: others).Pairwise fun a b => a.1 < b.1 :=
    h ▸ (pairwise_fromLines 1 s).filter _
  obtain ⟨line, after, hmarker, -⟩ := mem_markers.1 (h ▸ List.mem_cons_self .. : (first.1, first.2) ∈ markers s)
  have hleast : ∀ n line after, Marker s n line after → first.1 ≤ n := by
    intro n line after hmarker
    have hmem : (n, line ++ after) ∈ first :: others := h ▸ mem_markers.2 ⟨line, after, hmarker, rfl⟩
    rcases List.mem_cons.1 hmem with rfl | hmem
    · exact Nat.le_refl _
    · exact Nat.le_of_lt ((List.pairwise_cons.1 hascending).1 _ hmem)
  constructor
  · rintro ⟨⟨line', after', hmarker'⟩, hfirst⟩
    exact Nat.le_antisymm (hfirst _ _ _ hmarker) (hleast _ _ _ hmarker')
  · rintro rfl
    exact ⟨⟨line, after, hmarker⟩, hleast⟩

end Markers

/-- The check of declarations finds nothing exactly if no line opens with the keyword, or some line that does starts a
declaration, which may go on after the line. Otherwise it fails with the number of the first line that opens with the
keyword. -/
theorem checkDeclarations_markers (s : List Char) :
    (checkDeclarations s = .ok () ↔ (¬∃ number line after, Marker s number line after) ∨
      ∃ number line after, Marker s number line after ∧ ∃ w ∈ declaration, w <+: line ++ after) ∧
    ∀ e, checkDeclarations s = .error e ↔
      (¬∃ number line after, Marker s number line after ∧ ∃ w ∈ declaration, w <+: line ++ after) ∧
        ∃ number, FirstMarker s number ∧ e = .invalidDeclaration number := by
  rw [← markers_eq_nil_iff, ← any_markers]
  unfold checkDeclarations
  cases hmarkers : markers s with
  | nil =>
    refine ⟨iff_of_true rfl (Or.inl rfl), fun e => iff_of_false nofun ?_⟩
    rintro ⟨-, number, ⟨hmarker, -⟩, -⟩
    exact markers_eq_nil_iff.1 hmarkers ⟨number, hmarker⟩
  | cons first others =>
    simp only [firstMarker_iff hmarkers, exists_eq_left]
    by_cases hany : ((first :: others).any fun entry => opensDeclaration entry.2) = true
    · rw [if_pos hany]
      exact ⟨iff_of_true rfl (Or.inr hany), fun e => iff_of_false nofun fun h => h.1 hany⟩
    · rw [if_neg hany]
      refine ⟨iff_of_false nofun fun h => hany (h.resolve_left nofun), fun e => ?_⟩
      rw [Except.error.injEq, eq_comm]
      exact (and_iff_right hany).symm

end Template

end ComponentAudit
