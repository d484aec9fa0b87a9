import Mathlib.Data.List.Basic
import ComponentAudit.Data.Read
import ComponentAudit.Proofs.Moments

/-!
# Fields of records

What the readers of values make of a record. A record is read through lookups, and its known fields are checked before: where
every check passes (`Value.Passes`), reading goes on with the fields as they stand (`Value.asFields_record`). A list is read
back where its items are (`Value.asList_map`), a field that may be left out where it says what its absence says. What a
document can hold as it is, with no name twice in a record, is `Value.Plain`.
-/

namespace ComponentAudit.Data

/-- The names of some fields, in their order. -/
abbrev namesOf (fields : List (String × Value)) : List String :=
  fields.map Prod.fst

/-! ## Fields that may be left out -/

theorem names_optionalField (name : String) (v : Option Value) : (namesOf (optionalField name v)).Sublist [name] := by
  cases v with
  | none => exact List.nil_sublist _
  | some v => exact List.Sublist.refl _

theorem forall_mem_optionalField {p : String × Value → Prop} {name : String} {v : Option Value} :
    (∀ field ∈ optionalField name v, p field) ↔ ∀ w, v = some w → p (name, w) := by
  cases v <;> simp [optionalField]

theorem lookup_optionalField (name key : String) (v : Option Value) :
    (optionalField name v).lookup key = if key = name then v else none := by
  cases v with
  | none => simp [optionalField]
  | some v =>
    rw [optionalField, List.lookup_cons]
    by_cases h : key = name
    · rw [if_pos h, beq_iff_eq.2 h]
    · rw [if_neg h, beq_eq_false_iff_ne.2 h, List.lookup_nil]

namespace Value

variable {α : Type} {fields rest : List (String × Value)} {checks : List (String × (Value → Except ReadError Unit))}
  {name : String}

theorem need_eq (fields : List (String × Value)) (name : String) (read : Value → Except ReadError α) :
    need fields name read = (fields.lookup name).elim (.error (.missingField name)) read := by
  rw [need, field?]
  cases fields.lookup name <;> rfl

theorem orElse_eq (fields : List (String × Value)) (name : String) (read : Value → Except ReadError α) (default : α) :
    orElse fields name read default = (fields.lookup name).elim (.ok default) read := by
  rw [orElse, field?]
  cases fields.lookup name <;> rfl

/-- A field that is needed and read stands in the record. -/
theorem of_need {read : Value → Except ReadError α} {a : α} (h : need fields name read = .ok a) :
    ∃ v, read v = .ok a := by
  rw [need_eq] at h
  cases hlookup : fields.lookup name with
  | none =>
    rw [hlookup] at h
    cases h
  | some v =>
    rw [hlookup] at h
    exact ⟨v, h⟩

/-- What a field gives that may be left out is read from the record, or it is what the field says by its absence. -/
theorem of_orElse {read : Value → Except ReadError α} {a default : α} (h : orElse fields name read default = .ok a) :
    (∃ v, read v = .ok a) ∨ a = default := by
  rw [orElse_eq] at h
  cases hlookup : fields.lookup name with
  | none =>
    rw [hlookup] at h
    exact Or.inr (Except.ok.inj h).symm
  | some v =>
    rw [hlookup] at h
    exact Or.inl ⟨v, h⟩

/-! ## Single values -/

theorem check_of_read {read : Value → Except ReadError α} {v : Value} {a : α} (h : read v = .ok a) :
    check read v = .ok () := by
  rw [check, h]
  rfl

@[simp] theorem asText_text (s : String) : asText (text s) = .ok s := rfl
@[simp] theorem asBool_bool (b : Bool) : asBool (bool b) = .ok b := rfl
@[simp] theorem asPath_text (s : String) : asPath (text s) = .ok ⟨s⟩ := rfl

@[simp] theorem asCount_natCast (n : Nat) : asCount (int n) = .ok n := by
  rw [asCount, if_pos (Int.natCast_nonneg n), Int.toNat_natCast]

@[simp] theorem check_asText (s : String) : check asText (text s) = .ok () := rfl
@[simp] theorem check_asBool (b : Bool) : check asBool (bool b) = .ok () := rfl
@[simp] theorem check_asPath (s : String) : check asPath (text s) = .ok () := rfl
@[simp] theorem check_asOption_text (s : String) : check (asOption asText) (text s) = .ok () := rfl

@[simp] theorem check_asCount (n : Nat) : check asCount (int n) = .ok () :=
  check_of_read (asCount_natCast n)

/-- A text that may be left out is read back from the field that holds it where there is one. -/
@[simp] theorem elim_asOption_text (s : Option String) : s.elim (.ok none) (asOption asText ∘ text) = .ok s := by
  cases s <;> rfl

/-! ## Lists -/

/-- A list is read back where its items are. -/
theorem asList_map {encode : α → Value} {read : Value → Except ReadError α} {l : List α}
    (h : ∀ a ∈ l, read (encode a) = .ok a) : asList read (list (l.map encode)) = .ok l := by
  have hfrom (n : Nat) :
      ((l.map encode).zipIdx n).mapM (fun item => (read item.1).mapError (ReadError.within (.item item.2))) = .ok l := by
    induction l generalizing n with
    | nil => rfl
    | cons a l ih =>
      have hfirst : (read (encode a)).mapError (ReadError.within (.item n)) = .ok a := by
        rw [h a (List.mem_cons_self ..)]
        rfl
      rw [List.map_cons, List.zipIdx_cons, List.mapM_cons]
      exact bind_of hfirst (bind_of (ih (fun b hb => h b (List.mem_cons_of_mem a hb)) (n + 1)) rfl)
  exact hfrom 0

/-- What is read from a list is read from the items. -/
theorem of_asList {read : Value → Except ReadError α} {v : Value} {l : List α} (h : asList read v = .ok l) :
    ∀ a ∈ l, ∃ item, read item = .ok a := by
  have hfrom (items : List Value) : ∀ n l,
      (items.zipIdx n).mapM (fun item => (read item.1).mapError (ReadError.within (.item item.2))) = .ok l →
        ∀ a ∈ l, ∃ item, read item = .ok a := by
    induction items with
    | nil =>
      rintro n _ ⟨⟩ a ha
      exact absurd ha List.not_mem_nil
    | cons item rest ih =>
      intro n l hl
      rw [List.zipIdx_cons, List.mapM_cons] at hl
      obtain ⟨first, hfirst, hl⟩ := of_bind hl
      obtain ⟨others, hothers, hl⟩ := of_bind hl
      obtain rfl := Except.ok.inj hl
      refine List.forall_mem_cons.2 ⟨⟨item, ?_⟩, ih (n + 1) others hothers⟩
      cases hread : read item with
      | error e =>
        rw [hread] at hfirst
        cases hfirst
      | ok a =>
        rw [hread] at hfirst
        exact congrArg _ (Except.ok.inj hfirst)
  cases v with
  | list items => exact hfrom items 0 l h
  | _ => cases h

/-! ## Checks -/

/-- The check of every field that is known by name succeeds. -/
def Passes (checks : List (String × (Value → Except ReadError Unit))) (fields : List (String × Value)) : Prop :=
  ∀ field ∈ fields, ∀ check, checks.lookup field.1 = some check → check field.2 = .ok ()

theorem passes_nil : Passes checks [] :=
  fun _ h => absurd h List.not_mem_nil

theorem passes_cons {v : Value} : Passes checks ((name, v) :: rest) ↔
    (∀ check, checks.lookup name = some check → check v = .ok ()) ∧ Passes checks rest :=
  List.forall_mem_cons

theorem passes_append : Passes checks (fields ++ rest) ↔ Passes checks fields ∧ Passes checks rest :=
  List.forall_mem_append

theorem passes_optionalField {v : Option Value} : Passes checks (optionalField name v) ↔
    ∀ w, v = some w → ∀ check, checks.lookup name = some check → check w = .ok () :=
  forall_mem_optionalField

/-- What is not known by name is not checked. -/
theorem passes_of_unknown (h : ∀ name ∈ namesOf fields, checks.lookup name = none) : Passes checks fields := by
  intro field hfield check hcheck
  rw [h field.1 (List.mem_map_of_mem hfield)] at hcheck
  cases hcheck

/-- A loop whose rounds all go well. -/
theorem forIn_yield {β ε : Type} {l : List β} {f : β → Except ε (ForInStep PUnit)}
    (h : ∀ b ∈ l, f b = .ok (.yield PUnit.unit)) : forIn l PUnit.unit (fun b _ => f b) = .ok PUnit.unit := by
  induction l with
  | nil => rfl
  | cons b rest ih =>
    rw [List.forIn_cons, h b (List.mem_cons_self ..)]
    exact ih fun c hc => h c (List.mem_cons_of_mem b hc)

/-- A record whose fields pass their checks is read as its fields. -/
theorem asFields_record {what : String} (h : Passes checks fields) : (record fields).asFields what checks = .ok fields := by
  refine bind_of (forIn_yield fun (name, v) hfield => ?_) rfl
  cases hlookup : checks.lookup name with
  | none =>
    simp only [hlookup]
    rfl
  | some check =>
    simp only [hlookup, h (name, v) hfield check hlookup]
    rfl

/-! ## Plain values -/

/-- A value that a document holds as it is: neither a number with a fraction nor a moment, and no name twice in a record. -/
inductive Plain : Value → Prop
  | null : Plain .null
  | bool (b : Bool) : Plain (.bool b)
  | int (n : Int) : Plain (.int n)
  | text (s : String) : Plain (.text s)
  | list {items : List Value} (h : ∀ v ∈ items, Plain v) : Plain (.list items)
  | record {fields : List (String × Value)} (hnames : (namesOf fields).Nodup) (h : ∀ field ∈ fields, Plain field.2) :
    Plain (.record fields)

/-- A record some of whose fields may be left out. -/
theorem Plain.record_of_sublist {names : List String} (hsub : (namesOf fields).Sublist names) (hnames : names.Nodup)
    (h : ∀ field ∈ fields, field.2.Plain) : (Value.record fields).Plain :=
  .record (hsub.nodup hnames) h

theorem Plain.list_map {encode : α → Value} (h : ∀ a, (encode a).Plain) (l : List α) :
    (Value.list (l.map encode)).Plain :=
  .list fun v hv => by
    obtain ⟨a, -, rfl⟩ := List.mem_map.1 hv
    exact h a

end Value

end ComponentAudit.Data
