import ComponentAudit.Rule

/-!
# Registries

The rules of a scan, in the order in which they were given. No two rules of a registry share an identifier.
-/

namespace ComponentAudit

/-- The rules of a scan, with identifiers that differ. -/
structure Registry where
  rules : List Rule
  distinct : (rules.map (·.id)).Nodup
  deriving Repr, DecidableEq

/-- The first text of a list that stands among the given ones or earlier in the list. -/
def firstRepeated (seen : List String) : List String → Option String
  | [] => none
  | id :: rest => if id ∈ seen then some id else firstRepeated (id :: seen) rest

/-- Where nothing is repeated, the texts differ from each other and from the given ones. -/
theorem nodup_of_firstRepeated {seen l : List String} (h : firstRepeated seen l = none) :
    l.Nodup ∧ ∀ x ∈ l, x ∉ seen := by
  induction l generalizing seen with
  | nil => simp
  | cons id rest ih =>
    unfold firstRepeated at h
    split at h
    · cases h
    · rename_i hid
      obtain ⟨hrest, hseen⟩ := ih h
      refine ⟨List.nodup_cons.2 ⟨fun hmem => hseen id hmem (by simp), hrest⟩, fun x hx => ?_⟩
      rcases List.mem_cons.1 hx with rfl | hx
      · exact hid
      · exact fun hxs => hseen x hx (List.mem_cons_of_mem _ hxs)

/-- Why rules form no registry: two of them share an identifier. -/
structure DuplicateId where
  id : String
  deriving Repr, DecidableEq

/-- The text of the error. -/
def DuplicateId.message (e : DuplicateId) : String :=
  s!"Duplicate rule ID: {e.id}"

namespace Registry

/-- The registry without rules. -/
def empty : Registry := ⟨[], .nil⟩

/-- The registry of some rules, if their identifiers differ. -/
def ofRules (rules : List Rule) : Except DuplicateId Registry :=
  match h : firstRepeated [] (rules.map (·.id)) with
  | some id => .error ⟨id⟩
  | none => .ok ⟨rules, (nodup_of_firstRepeated h).1⟩

/-- The identifiers, in order. -/
def ids (r : Registry) : List String :=
  r.rules.map (·.id)

/-- The rule of an identifier. -/
def get? (r : Registry) (id : String) : Option Rule :=
  r.rules.find? fun rule => rule.id = id

/-- The rules that inspect files of a kind. -/
def applicable (r : Registry) (k : FileKind) : List Rule :=
  r.rules.filter (·.appliesTo k)

/-- The registry with only the rules whose identifiers are listed. -/
def retain (r : Registry) (ids : List String) : Registry :=
  { rules := r.rules.filter fun rule => ids.contains rule.id
    distinct := List.Sublist.nodup (List.filter_sublist.map _) r.distinct }

/-- How many rules there are. -/
def size (r : Registry) : Nat :=
  r.rules.length

end Registry

end ComponentAudit
