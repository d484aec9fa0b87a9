import Mathlib.Data.List.Forall2
import Mathlib.Data.List.Lattice
import ComponentAudit.Config
import ComponentAudit.Proofs.Checking

/-!
# From a configuration to a registry

A configuration switches rules off, settles which of the others are required, and adds rules of its own. What is left makes a
registry unless an identifier is repeated in it, and a registry can be cut down any number of times. The main result
(`Config.resolve_registry`) says what the rules are at each step, whatever is repeated among the rules to start from.
-/

namespace ComponentAudit

/-! ## Repetitions -/

/-- A text is the first one of a list that stands in the list before. -/
def FirstRepeats (l : List String) (id : String) : Prop :=
  ∃ before after, l = before ++ id :: after ∧ before.Nodup ∧ id ∈ before

/-- The first repetition among some texts, which may also repeat one of those seen before them. -/
theorem firstRepeated_eq_some_iff {seen l : List String} {id : String} :
    firstRepeated seen l = some id ↔
      ∃ before after, l = before ++ id :: after ∧ before.Nodup ∧ (∀ x ∈ before, x ∉ seen) ∧
        (id ∈ seen ∨ id ∈ before) := by
  induction l generalizing seen with
  | nil => simp [firstRepeated]
  | cons first rest ih =>
    rw [firstRepeated]
    split
    · rename_i hseen
      constructor
      · rintro h
        cases h
        exact ⟨[], rest, rfl, .nil, fun _ hx => absurd hx List.not_mem_nil, Or.inl hseen⟩
      · rintro ⟨before, after, hl, -, hnew, -⟩
        cases before with
        | nil => exact congrArg some (List.cons.inj hl).1
        | cons x before =>
          obtain ⟨rfl, -⟩ := List.cons.inj hl
          exact absurd hseen (hnew first (List.mem_cons_self ..))
    · rename_i hseen
      rw [ih]
      constructor
      · rintro ⟨before, after, rfl, hnodup, hnew, hid⟩
        have hfirst : first ∉ before := fun h => hnew first h (List.mem_cons_self ..)
        refine ⟨first :: before, after, rfl, List.nodup_cons.2 ⟨hfirst, hnodup⟩, ?_, ?_⟩
        · rw [List.forall_mem_cons]
          exact ⟨hseen, fun x hx h => hnew x hx (List.mem_cons_of_mem _ h)⟩
        · rwa [List.mem_cons, or_assoc, or_left_comm, ← List.mem_cons] at hid
      · rintro ⟨before, after, hl, hnodup, hnew, hid⟩
        cases before with
        | nil =>
          obtain ⟨rfl, -⟩ := List.cons.inj hl
          exact absurd (hid.resolve_right List.not_mem_nil) hseen
        | cons x before =>
          obtain ⟨rfl, rfl⟩ := List.cons.inj hl
          obtain ⟨hfirst, hnodup⟩ := List.nodup_cons.1 hnodup
          refine ⟨before, after, rfl, hnodup, fun y hy => ?_, ?_⟩
          · rw [List.mem_cons, not_or]
            exact ⟨fun heq => hfirst (heq ▸ hy), hnew y (List.mem_cons_of_mem _ hy)⟩
          · rwa [List.mem_cons, or_left_comm, ← or_assoc, ← List.mem_cons] at hid

theorem firstRepeated_nil_eq_some_iff {l : List String} {id : String} :
    firstRepeated [] l = some id ↔ FirstRepeats l id := by
  rw [firstRepeated_eq_some_iff, FirstRepeats]
  simp

theorem firstRepeated_nil_eq_none_iff {l : List String} : firstRepeated [] l = none ↔ l.Nodup := by
  refine ⟨fun h => (nodup_of_firstRepeated h).1, fun hnodup => ?_⟩
  rw [Option.eq_none_iff_forall_ne_some]
  intro id hid
  obtain ⟨before, after, rfl, -, hmem⟩ := firstRepeated_nil_eq_some_iff.1 hid
  exact (List.nodup_append.1 hnodup).2.2 id hmem id (List.mem_cons_self ..) rfl

/-! ## Registries -/

namespace Registry

variable {g : Registry} {rules : List Rule}

/-- Some rules make a registry, which consists of them, exactly if their identifiers differ. -/
theorem ofRules_eq_ok_iff : ofRules rules = .ok g ↔ g.rules = rules := by
  unfold ofRules
  split
  · rename_i id h
    refine iff_of_false nofun fun hg => ?_
    rw [firstRepeated_nil_eq_none_iff.2 (hg ▸ g.distinct)] at h
    cases h
  · constructor
    · intro h
      cases h
      rfl
    · rintro rfl
      rfl

/-- The error of rules that make no registry names the first identifier that is repeated. -/
theorem ofRules_eq_error_iff {e : DuplicateId} :
    ofRules rules = .error e ↔ FirstRepeats (rules.map (·.id)) e.id := by
  rw [← firstRepeated_nil_eq_some_iff]
  obtain ⟨id⟩ := e
  unfold ofRules
  split
  · rename_i h
    simp [h]
  · rename_i h
    simp [h]

/-- What is left of a registry of which the listed rules were kept, for one list after the other: the rules that all lists
have, in the order of the registry, found by their identifiers, as if they had been kept at once. -/
structure Leaves (g : Registry) (keeps : List (List String)) (left : Registry) : Prop where
  rules : left.rules = g.rules.filter fun r => ∀ ids ∈ keeps, r.id ∈ ids
  distinct : left.ids.Nodup
  get : ∀ id r, left.get? id = some r ↔ r ∈ g.rules ∧ r.id = id ∧ ∀ ids ∈ keeps, id ∈ ids
  atOnce : ∀ first rest, keeps = first :: rest → left = g.retain (rest.foldl (· ∩ ·) first)

theorem eq_of_rules {g g' : Registry} (h : g.rules = g'.rules) : g = g' := by
  cases g
  cases g'
  cases h
  rfl

theorem rules_foldl_retain (g : Registry) (keeps : List (List String)) :
    (keeps.foldl retain g).rules = g.rules.filter fun r => ∀ ids ∈ keeps, r.id ∈ ids := by
  induction keeps generalizing g with
  | nil => simp
  | cons first rest ih =>
    rw [List.foldl_cons, ih, retain, List.filter_filter]
    refine List.filter_congr fun r _ => ?_
    rw [Bool.eq_iff_iff]
    simp [and_comm]

/-- Keeping the rules of one list after the other is keeping the rules that are in all of them. -/
theorem foldl_retain_cons (g : Registry) (first : List String) (rest : List (List String)) :
    (first :: rest).foldl retain g = g.retain (rest.foldl (· ∩ ·) first) := by
  induction rest generalizing first with
  | nil => rfl
  | cons next rest ih =>
    rw [List.foldl_cons (f := (· ∩ ·)), ← ih (first ∩ next)]
    have hnext : (g.retain first).retain next = g.retain (first ∩ next) := by
      refine eq_of_rules ?_
      simp only [retain, List.filter_filter]
      refine List.filter_congr fun r _ => ?_
      rw [Bool.eq_iff_iff]
      simp [and_comm]
    rw [List.foldl_cons, List.foldl_cons, List.foldl_cons, hnext]

theorem leaves_foldl_retain (g : Registry) (keeps : List (List String)) : g.Leaves keeps (keeps.foldl retain g) where
  rules := g.rules_foldl_retain keeps
  distinct := (keeps.foldl retain g).distinct
  get := by
    intro id r
    rw [get?_eq_some_iff, rules_foldl_retain, List.mem_filter, decide_eq_true_eq, and_assoc]
    refine and_congr_right fun _ => and_comm.trans (and_congr_right fun hid => ?_)
    rw [hid]
  atOnce := by
    rintro first rest rfl
    exact g.foldl_retain_cons first rest

end Registry

/-! ## Configurations -/

namespace Config

variable {c : Config}

/-- What a configuration says about a rule switches it off. -/
def SwitchesOff (c : Config) (id : String) : Prop :=
  ∃ o, c.override? id = some o ∧ o.enabled = some false

/-- A rule as a configuration has it: it is required or not as is said about it, and as it was where nothing is said. -/
structure Settles (c : Config) (r r' : Rule) : Prop where
  said : ∀ o required, c.override? r.id = some o → o.required = some required → r' = { r with required := required }
  unsaid : (∀ o, c.override? r.id = some o → o.required = none) → r' = r

theorem isRuleEnabled_eq_false_iff {id : String} : c.isRuleEnabled id = false ↔ c.SwitchesOff id := by
  unfold isRuleEnabled SwitchesOff
  cases c.override? id with
  | none => simp
  | some o =>
    cases henabled : o.enabled with
    | none => simp [henabled]
    | some enabled => simp [henabled]

instance (c : Config) (id : String) : Decidable (c.SwitchesOff id) :=
  decidable_of_iff _ isRuleEnabled_eq_false_iff

/-- The rules that are not switched off, out of some rules and those of the configuration. -/
def used (c : Config) (base : List Rule) : List Rule :=
  (base ++ c.customRules).filter fun r => ¬c.SwitchesOff r.id

theorem settles_apply (c : Config) (r : Rule) : c.Settles r (c.apply r) := by
  unfold apply
  cases ho : c.override? r.id with
  | none => exact ⟨fun o required ho' => by simp [ho] at ho', fun _ => rfl⟩
  | some o =>
    cases hrequired : o.required with
    | none =>
      refine ⟨fun o' required ho' hrequired' => ?_, fun _ => by simp [hrequired]⟩
      obtain rfl := Option.some.inj (ho.symm.trans ho')
      rw [hrequired] at hrequired'
      cases hrequired'
    | some required =>
      refine ⟨fun o' required' ho' hrequired' => ?_, fun hunsaid => ?_⟩
      · obtain rfl := Option.some.inj (ho.symm.trans ho')
        obtain rfl := Option.some.inj (hrequired.symm.trans hrequired')
        simp [hrequired]
      · have hnone := hunsaid o ho
        rw [hrequired] at hnone
        cases hnone

theorem id_apply (c : Config) (r : Rule) : (c.apply r).id = r.id := by
  unfold apply
  split
  · rfl
  · rfl

theorem resolve_eq (c : Config) (base : List Rule) : c.resolve base = (c.used base).map c.apply := by
  have hused : ∀ r ∈ base ++ c.customRules, c.isRuleEnabled r.id = decide (¬c.SwitchesOff r.id) := by
    intro r _
    rw [Bool.eq_iff_iff, decide_eq_true_eq, ← isRuleEnabled_eq_false_iff, Bool.not_eq_false]
  rw [resolve, used, List.filter_congr hused]

theorem ids_resolve (c : Config) (base : List Rule) : (c.resolve base).map (·.id) = (c.used base).map (·.id) := by
  rw [resolve_eq, List.map_map]
  exact List.map_congr_left fun r _ => c.id_apply r

/-- From a configuration to a registry. Of some rules and those of the configuration after them, those that are not switched off
are left, in their order, and each is required or not as is said about it. They make a registry exactly if their identifiers
differ, and else the error names the first one that is repeated; what is repeated among the rules that are switched off does not
matter. The registry may then be cut down any number of times: the rules keep their order and are found by their identifiers,
and it could have been done at once. -/
theorem resolve_registry (c : Config) (base : List Rule) :
    List.Forall₂ c.Settles (c.used base) (c.resolve base) ∧
    (((c.used base).map (·.id)).Nodup ↔
      ∃ g, Registry.ofRules (c.resolve base) = .ok g ∧ g.rules = c.resolve base ∧
        ∀ keeps : List (List String), g.Leaves keeps (keeps.foldl Registry.retain g)) ∧
    ∀ e, Registry.ofRules (c.resolve base) = .error e ↔ FirstRepeats ((c.used base).map (·.id)) e.id := by
  refine ⟨?_, ?_, fun e => ?_⟩
  · rw [resolve_eq, List.forall₂_map_right_iff, List.forall₂_same]
    exact fun r _ => c.settles_apply r
  · rw [← ids_resolve]
    constructor
    · intro hnodup
      exact ⟨⟨_, hnodup⟩, Registry.ofRules_eq_ok_iff.2 rfl, rfl, Registry.leaves_foldl_retain _⟩
    · rintro ⟨g, -, hrules, -⟩
      exact hrules ▸ g.distinct
  · rw [← ids_resolve]
    exact Registry.ofRules_eq_error_iff

end Config

end ComponentAudit
