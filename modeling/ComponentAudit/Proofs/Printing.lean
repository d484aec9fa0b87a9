import Mathlib.Data.List.Basic
import ComponentAudit.Data.Json
import ComponentAudit.Proofs.Fields
import ComponentAudit.Text.Ranges

/-!
# A JSON text is the text of one value

The text of a plain value tells the value, whatever follows it that does not go on a number (`Json.tells_pretty`): the first
character tells what kind of value it is, and within a list or a record what follows an entry tells whether there is another
one. So no two plain values have the same text (`Json.pretty_inj`).
-/

namespace ComponentAudit.Data.Json

open Text (hexValue)
open Timestamp (EndsNumber Says says_padded toList_padded takeWhile_digits endsNumber_cons)

variable {α : Type} {depth : Nat} {a b : List Char}

/-- Among the values of a kind, a text tells the one that it is the text of, and where it ends. -/
def Tells (text : α → List Char) (kind : α → Prop) (x : α) : Prop :=
  ∀ y, kind y → ∀ a b, EndsNumber a → EndsNumber b → text x ++ a = text y ++ b → x = y ∧ a = b

/-! ## Numbers -/

theorem says_toDigits (n : Nat) : Says (Nat.toDigits 10 n) n := by
  have h := says_padded 0 n
  rwa [toList_padded, Nat.zero_sub, List.replicate_zero, List.nil_append] at h

theorem toDigits_append_inj {m n : Nat} (ha : EndsNumber a) (hb : EndsNumber b)
    (h : Nat.toDigits 10 m ++ a = Nat.toDigits 10 n ++ b) : m = n ∧ a = b := by
  have hdigits : Nat.toDigits 10 m = Nat.toDigits 10 n := by
    rw [← takeWhile_digits (says_toDigits m).isDigit ha, h, takeWhile_digits (says_toDigits n).isDigit hb]
  rw [hdigits] at h
  refine ⟨?_, List.append_cancel_left h⟩
  rw [← (says_toDigits m).value, hdigits, (says_toDigits n).value]

/-- Digits are no sign. -/
theorem toDigits_append_ne (n : Nat) : Nat.toDigits 10 n ++ a ≠ '-' :: b := by
  obtain ⟨c, rest, hdigits⟩ := List.exists_cons_of_ne_nil (says_toDigits n).nonempty
  intro h
  have hdigit := (says_toDigits n).isDigit c (hdigits ▸ List.mem_cons_self ..)
  rw [hdigits, List.cons_append, List.cons.injEq] at h
  rw [h.1] at hdigit
  cases hdigit

theorem toList_repr_ofNat (n : Nat) : (toString (Int.ofNat n)).toList = Nat.toDigits 10 n :=
  Nat.toList_repr

theorem toList_repr_negSucc (n : Nat) : (toString (Int.negSucc n)).toList = '-' :: Nat.toDigits 10 (n + 1) := by
  have h : toString (Int.negSucc n) = "-" ++ (n + 1).repr := rfl
  rw [h, String.toList_append, Nat.toList_repr]
  rfl

theorem int_append_inj {m n : Int} (ha : EndsNumber a) (hb : EndsNumber b)
    (h : (toString m).toList ++ a = (toString n).toList ++ b) : m = n ∧ a = b := by
  cases m with
  | ofNat m =>
    cases n with
    | ofNat n =>
      rw [toList_repr_ofNat, toList_repr_ofNat] at h
      obtain ⟨rfl, rfl⟩ := toDigits_append_inj ha hb h
      exact ⟨rfl, rfl⟩
    | negSucc n =>
      rw [toList_repr_ofNat, toList_repr_negSucc] at h
      exact absurd h (toDigits_append_ne m)
  | negSucc m =>
    cases n with
    | ofNat n =>
      rw [toList_repr_ofNat, toList_repr_negSucc] at h
      exact absurd h.symm (toDigits_append_ne n)
    | negSucc n =>
      rw [toList_repr_negSucc, toList_repr_negSucc, List.cons_append, List.cons_append, List.cons.injEq] at h
      obtain ⟨hsucc, rfl⟩ := toDigits_append_inj ha hb h.2
      rw [Nat.succ.inj hsucc]
      exact ⟨rfl, rfl⟩

/-! ## Texts in quotes -/

/-- The character that stands first between quotes, and what follows it. -/
def unquote : List Char → Option (Char × List Char)
  | '\\' :: 'u' :: '0' :: '0' :: x :: y :: rest => some (Char.ofNat (16 * hexValue x + hexValue y), rest)
  | '\\' :: 'n' :: rest => some ('\n', rest)
  | '\\' :: 'r' :: rest => some ('\r', rest)
  | '\\' :: 't' :: rest => some ('\t', rest)
  | '\\' :: 'b' :: rest => some ('\x08', rest)
  | '\\' :: 'f' :: rest => some ('\x0c', rest)
  | '\\' :: c :: rest => some (c, rest)
  | c :: rest => some (c, rest)
  | [] => none

theorem ofNat_hexDigits {n : Nat} (h : n < 0x20) :
    Char.ofNat (16 * hexValue (hexDigit (n / 16)) + hexValue (hexDigit (n % 16))) = Char.ofNat n := by
  revert n
  decide

/-- A character is read back from between quotes, whatever follows. -/
theorem unquote_quotedChar (c : Char) (rest : List Char) : unquote (quotedChar c ++ rest) = some (c, rest) := by
  unfold quotedChar
  split_ifs with hquote hslash hn hr ht hb hf hcontrol
  · rw [hquote]
    rfl
  · rw [hslash]
    rfl
  · rw [hn]
    rfl
  · rw [hr]
    rfl
  · rw [ht]
    rfl
  · rw [hb]
    rfl
  · rw [hf]
    rfl
  · show some (Char.ofNat (16 * hexValue (hexDigit (c.toNat / 16)) + hexValue (hexDigit (c.toNat % 16))), rest) = _
    rw [ofNat_hexDigits hcontrol, Char.ofNat_toNat]
  · -- A character that is no backslash stands for itself.
    rw [List.singleton_append]
    unfold unquote
    split
    all_goals simp_all

/-- A quote does not stand between quotes as it is. -/
theorem quotedChar_append_ne (c : Char) (rest : List Char) : quotedChar c ++ rest ≠ '"' :: b := by
  unfold quotedChar
  split_ifs with hquote
  all_goals simp_all

theorem flatMap_quotedChar_inj {s t : List Char}
    (h : s.flatMap quotedChar ++ '"' :: a = t.flatMap quotedChar ++ '"' :: b) : s = t ∧ a = b := by
  induction s generalizing t with
  | nil =>
    cases t with
    | nil => exact ⟨rfl, (List.cons.inj h).2⟩
    | cons d t =>
      rw [List.flatMap_cons, List.append_assoc] at h
      exact absurd h.symm (quotedChar_append_ne d _)
  | cons c s ih =>
    cases t with
    | nil =>
      rw [List.flatMap_cons, List.append_assoc] at h
      exact absurd h (quotedChar_append_ne c _)
    | cons d t =>
      have hfirst := congrArg unquote h
      rw [List.flatMap_cons, List.flatMap_cons, List.append_assoc, List.append_assoc, unquote_quotedChar,
        unquote_quotedChar, Option.some.injEq, Prod.mk.injEq] at hfirst
      obtain ⟨rfl, hrest⟩ := hfirst
      obtain ⟨rfl, hab⟩ := ih hrest
      exact ⟨rfl, hab⟩

theorem quoted_append_inj {s t : String} (h : (quoted s).toList ++ a = (quoted t).toList ++ b) : s = t ∧ a = b := by
  rw [quoted, quoted, String.toList_ofList, String.toList_ofList] at h
  simp only [List.cons_append, List.append_assoc, List.cons.injEq, true_and] at h
  obtain ⟨hst, hab⟩ := flatMap_quotedChar_inj h
  exact ⟨String.toList_inj.1 hst, hab⟩

/-! ## Lists and records -/

/-- The entries of a block after its first one. -/
def others (margin : List Char) (text : α → List Char) (xs : List α) : List Char :=
  xs.flatMap fun x => ',' :: '\n' :: (margin ++ text x)

theorem intercalate_cons (sep x : List Char) (xs : List (List Char)) :
    sep.intercalate (x :: xs) = x ++ xs.flatMap (sep ++ ·) := by
  induction xs generalizing x with
  | nil => simp
  | cons y ys ih => rw [List.intercalate_cons_cons, ih, List.flatMap_cons, List.append_assoc, List.append_assoc]

/-- A block with entries, line by line. -/
theorem toList_block_cons {opening closing : String} (text : α → String) (x : α) (xs : List α) :
    (block depth opening closing ((x :: xs).map text)).toList =
      opening.toList ++ '\n' :: ((margin (depth + 1)).toList ++ ((text x).toList ++
        (others (margin (depth + 1)).toList (fun y => (text y).toList) xs ++
          '\n' :: ((margin depth).toList ++ closing.toList)))) := by
  have hblock : block depth opening closing ((x :: xs).map text) = opening ++ "\n" ++
      ",\n".intercalate (((x :: xs).map text).map (margin (depth + 1) ++ ·)) ++ "\n" ++ margin depth ++ closing := rfl
  rw [hblock]
  simp only [String.toList_append, String.toList_intercalate, List.map_cons, List.map_map, intercalate_cons]
  simp [others, List.flatMap_map]

theorem endsNumber_others {margin rest : List Char} (text : α → List Char) (xs : List α) :
    EndsNumber (others margin text xs ++ '\n' :: rest) := by
  cases xs with
  | nil => exact endsNumber_cons (by decide)
  | cons x xs => exact endsNumber_cons (by decide)

/-- The entries of a block are told by their lines. -/
theorem others_append_inj {text : α → List Char} {kind : α → Prop} {margin : List Char} {xs ys : List α}
    (hxs : ∀ x ∈ xs, Tells text kind x) (hys : ∀ y ∈ ys, kind y)
    (h : others margin text xs ++ '\n' :: a = others margin text ys ++ '\n' :: b) : xs = ys ∧ a = b := by
  induction xs generalizing ys with
  | nil =>
    cases ys with
    | nil => exact ⟨rfl, (List.cons.inj h).2⟩
    | cons y ys => exact absurd (List.cons.inj h).1 (by decide)
  | cons x xs ih =>
    cases ys with
    | nil => exact absurd (List.cons.inj h).1 (by decide)
    | cons y ys =>
      simp only [others, List.flatMap_cons, List.cons_append, List.append_assoc, List.cons.injEq, true_and] at h
      -- A comma or a line break follows an entry, so that no number goes on.
      obtain ⟨hx, hxs'⟩ := List.forall_mem_cons.1 hxs
      obtain ⟨hy, hys'⟩ := List.forall_mem_cons.1 hys
      obtain ⟨rfl, hrest⟩ := hx y hy _ _ (endsNumber_others text xs) (endsNumber_others text ys) (List.append_cancel_left h)
      obtain ⟨rfl, hab⟩ := ih hxs' hys' hrest
      exact ⟨rfl, hab⟩

/-- A block tells its entries, if no line break closes it. -/
theorem block_append_inj {opening closing : String} {c : Char} (hclosing : closing.toList = [c]) (hc : c ≠ '\n')
    {text : α → String} {kind : α → Prop} {xs ys : List α} (hxs : ∀ x ∈ xs, Tells (fun y => (text y).toList) kind x)
    (hys : ∀ y ∈ ys, kind y)
    (h : (block depth opening closing (xs.map text)).toList ++ a = (block depth opening closing (ys.map text)).toList ++ b) :
    xs = ys ∧ a = b := by
  have hempty : (block depth opening closing []).toList = opening.toList ++ [c] := by
    rw [block, String.toList_append, hclosing]
  cases xs with
  | nil =>
    cases ys with
    | nil => exact ⟨rfl, List.append_cancel_left h⟩
    | cons y ys =>
      rw [List.map_nil, hempty, toList_block_cons, List.append_assoc, List.append_assoc] at h
      exact absurd (List.cons.inj (List.append_cancel_left h)).1 hc
  | cons x xs =>
    cases ys with
    | nil =>
      rw [List.map_nil, hempty, toList_block_cons, List.append_assoc, List.append_assoc] at h
      exact absurd (List.cons.inj (List.append_cancel_left h)).1.symm hc
    | cons y ys =>
      rw [toList_block_cons, toList_block_cons] at h
      simp only [List.cons_append, List.append_assoc, List.append_cancel_left_eq, List.cons.injEq, true_and] at h
      obtain ⟨hx, hxs'⟩ := List.forall_mem_cons.1 hxs
      obtain ⟨hy, hys'⟩ := List.forall_mem_cons.1 hys
      obtain ⟨rfl, hrest⟩ := hx y hy _ _ (endsNumber_others _ xs) (endsNumber_others _ ys) h
      obtain ⟨rfl, hend⟩ := others_append_inj hxs' hys' hrest
      exact ⟨rfl, List.append_cancel_left (List.append_cancel_left hend)⟩

theorem prettyItems_eq (depth : Nat) (items : List Value) : prettyItems depth items = items.map (pretty depth) := by
  induction items with
  | nil => rw [prettyItems, List.map_nil]
  | cons v rest ih => rw [prettyItems, ih, List.map_cons]

/-- A field on its line. -/
def fieldText (depth : Nat) (field : String × Value) : String :=
  quoted field.1 ++ ": " ++ pretty depth field.2

theorem prettyFields_eq (depth : Nat) (fields : List (String × Value)) :
    prettyFields depth fields = fields.map (fieldText depth) := by
  induction fields with
  | nil => rw [prettyFields, List.map_nil]
  | cons field rest ih =>
    obtain ⟨name, v⟩ := field
    rw [prettyFields, ih, List.map_cons, fieldText]

/-! ## Values -/

/-- One character for all with which texts of the same kind of value open. -/
def representative (c : Char) : Char :=
  if c = 'f' then 't' else if c = '-' ∨ c.isDigit then '0' else c

/-- What stands for the first character of a value's text. -/
def opening : Value → Char
  | .null => 'n'
  | .bool _ => 't'
  | .int _ | .real _ => '0'
  | .text _ | .moment _ => '"'
  | .list _ => '['
  | .record _ => '\x7b'

theorem representative_of_isDigit {c : Char} (h : c.isDigit = true) : representative c = '0' := by
  have hf : c ≠ 'f' := by
    rintro rfl
    cases h
  rw [representative, if_neg hf, if_pos (Or.inr h)]

theorem block_eq_cons {opening : String} {c : Char} (h : opening.toList = [c]) (closing : String) (entries : List String) :
    ∃ rest, (block depth opening closing entries).toList = c :: rest := by
  cases entries with
  | nil => exact ⟨_, by rw [block, String.toList_append, h]; rfl⟩
  | cons entry entries =>
    rw [← List.map_id (entry :: entries), toList_block_cons, h]
    exact ⟨_, rfl⟩

theorem exists_opening {v : Value} (hv : v.Plain) (depth : Nat) :
    ∃ c rest, (pretty depth v).toList = c :: rest ∧ representative c = opening v := by
  cases hv with
  | null => exact ⟨'n', _, by rw [pretty]; rfl, by decide⟩
  | bool x =>
    cases x with
    | true => exact ⟨'t', _, by rw [pretty]; rfl, by decide⟩
    | false => exact ⟨'f', _, by rw [pretty]; rfl, by decide⟩
  | int n =>
    rw [pretty]
    cases n with
    | ofNat n =>
      obtain ⟨c, rest, hdigits⟩ := List.exists_cons_of_ne_nil (says_toDigits n).nonempty
      exact ⟨c, rest, by rw [toList_repr_ofNat, hdigits],
        representative_of_isDigit ((says_toDigits n).isDigit c (hdigits ▸ List.mem_cons_self ..))⟩
    | negSucc n => exact ⟨'-', _, toList_repr_negSucc n, (by decide : representative '-' = '0')⟩
  | text s => exact ⟨'"', _, by rw [pretty, quoted, String.toList_ofList]; rfl, (by decide : representative '"' = '"')⟩
  | list hitems =>
    obtain ⟨rest, hrest⟩ := block_eq_cons (show "[".toList = ['['] from rfl) "]" (prettyItems (depth + 1) _)
    rw [pretty]
    exact ⟨'[', rest, hrest, (by decide : representative '[' = '[')⟩
  | record hnames hfields =>
    obtain ⟨rest, hrest⟩ := block_eq_cons (show "\x7b".toList = ['\x7b'] from rfl) "\x7d" (prettyFields (depth + 1) _)
    rw [pretty]
    exact ⟨'\x7b', rest, hrest, (by decide : representative '\x7b' = '\x7b')⟩

theorem opening_eq {v w : Value} (hv : v.Plain) (hw : w.Plain)
    (h : (pretty depth v).toList ++ a = (pretty depth w).toList ++ b) : opening v = opening w := by
  obtain ⟨c, rest, hc, hv⟩ := exists_opening hv depth
  obtain ⟨d, rest', hd, hw⟩ := exists_opening hw depth
  rw [hc, hd] at h
  rw [← hv, ← hw, (List.cons.inj h).1]

theorem tells_fieldText {field : String × Value}
    (h : Tells (fun w => (pretty depth w).toList) Value.Plain field.2) :
    Tells (fun f => (fieldText depth f).toList) (fun f => f.2.Plain) field := by
  rintro ⟨name, w⟩ hw a b ha hb htext
  simp only [fieldText, String.toList_append, List.append_assoc] at htext
  obtain ⟨hname, htext⟩ := quoted_append_inj htext
  obtain ⟨hvalue, hab⟩ := h w hw a b ha hb (List.append_cancel_left htext)
  exact ⟨Prod.ext hname hvalue, hab⟩

/-- The text of a plain value tells the value, whatever follows. -/
theorem tells_pretty {v : Value} (hv : v.Plain) (depth : Nat) : Tells (fun w => (pretty depth w).toList) Value.Plain v := by
  -- The opening rules out the values of other kinds; the entries of a list and of a record are one level deeper.
  induction hv generalizing depth with
  | null =>
    intro w hw a b ha hb h
    have hopening := opening_eq .null hw h
    cases hw with
    | null => exact ⟨rfl, List.append_cancel_left h⟩
    | _ => simp [opening] at hopening
  | bool x =>
    intro w hw a b ha hb h
    have hopening := opening_eq (.bool x) hw h
    cases hw with
    | bool y =>
      cases x with
      | true =>
        cases y with
        | true => exact ⟨rfl, List.append_cancel_left h⟩
        | false => simp [pretty] at h
      | false =>
        cases y with
        | true => simp [pretty] at h
        | false => exact ⟨rfl, List.append_cancel_left h⟩
    | _ => simp [opening] at hopening
  | int m =>
    intro w hw a b ha hb h
    have hopening := opening_eq (.int m) hw h
    cases hw with
    | int n =>
      simp only [pretty] at h
      obtain ⟨rfl, hab⟩ := int_append_inj ha hb h
      exact ⟨rfl, hab⟩
    | _ => simp [opening] at hopening
  | text s =>
    intro w hw a b ha hb h
    have hopening := opening_eq (.text s) hw h
    cases hw with
    | text t =>
      simp only [pretty] at h
      obtain ⟨rfl, hab⟩ := quoted_append_inj h
      exact ⟨rfl, hab⟩
    | _ => simp [opening] at hopening
  | list hitems ih =>
    intro w hw a b ha hb h
    have hopening := opening_eq (.list hitems) hw h
    cases hw with
    | list hothers =>
      simp only [pretty, prettyItems_eq] at h
      obtain ⟨rfl, hab⟩ := block_append_inj rfl (by decide) (fun v hv => ih v hv (depth + 1)) hothers h
      exact ⟨rfl, hab⟩
    | _ => simp [opening] at hopening
  | record hnames hfields ih =>
    intro w hw a b ha hb h
    have hopening := opening_eq (.record hnames hfields) hw h
    cases hw with
    | record hnames' hfields' =>
      simp only [pretty, prettyFields_eq] at h
      obtain ⟨rfl, hab⟩ := block_append_inj rfl (by decide) (fun f hf => tells_fieldText (ih f hf (depth + 1))) hfields' h
      exact ⟨rfl, hab⟩
    | _ => simp [opening] at hopening

/-- No two plain values have the same text. -/
theorem pretty_inj {v w : Value} (hv : v.Plain) (hw : w.Plain) (h : pretty depth v = pretty depth w) : v = w := by
  have hend : EndsNumber [] := fun c hc => by cases hc
  exact (tells_pretty hv depth w hw [] [] hend hend (congrArg (fun s => s.toList ++ []) h)).1

end ComponentAudit.Data.Json
