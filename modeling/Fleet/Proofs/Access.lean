import Fleet.Access

/-!
# Rules for everyone

Patterns that are left out, or have a lone star among them, match any value. A request has one user,
one action and one resource, so that such patterns for them match every request. It has any number
of groups, and each of them is matched by itself: a star for groups is about the callers that have a
group, and a rule that names its callers in this way only passes over all others.
-/

namespace Fleet

theorem matchesPattern_star (value : String) : matchesPattern "*" value = true := by
  have anyRest : Text.dropTail? ['*'] "*".toList = some [] := by decide
  rw [matchesPattern, anyRest]
  rfl

/-- The patterns match any value: there are none, or a lone star is among them. -/
def IsWild (patterns : List String) : Prop :=
  patterns = [] ∨ "*" ∈ patterns

theorem matchesAny_of_isWild {patterns : List String} (wild : IsWild patterns) (value : String) :
    matchesAny patterns value = true := by
  rcases wild with rfl | star
  · rfl
  · have matching : patterns.any (matchesPattern · value) = true :=
      List.any_eq_true.mpr ⟨"*", star, matchesPattern_star value⟩
    rw [matchesAny, matching, Bool.or_true]

/-- How a rule for everyone names its callers. -/
inductive Audience where
  | unnamed
  | users
  | groups
  deriving DecidableEq

/-- The callers that a rule for everyone is about: where it names groups, those that have one. -/
def Audience.Includes (audience : Audience) (identity : Identity) : Prop :=
  audience = .groups → identity.groups ≠ []

namespace AccessRule

/-- The rule names all callers, by neither users nor groups or by a star in one of the two lists. -/
inductive Addresses (rule : AccessRule) : Audience → Prop where
  | unnamed (noUsers : rule.users = []) (noGroups : rule.groups = []) : Addresses rule .unnamed
  | users (star : "*" ∈ rule.users) (noGroups : rule.groups = []) : Addresses rule .users
  | groups (noUsers : rule.users = []) (star : "*" ∈ rule.groups) : Addresses rule .groups

/-- The rule is meant for every request. -/
structure IsForAll (rule : AccessRule) (audience : Audience) : Prop where
  callers : rule.Addresses audience
  actions : IsWild rule.actions
  resources : IsWild rule.resources

variable {rule : AccessRule} {audience : Audience}

theorem Addresses.concerns_iff (addresses : rule.Addresses audience) (identity : Identity) :
    rule.concerns identity = true ↔ audience.Includes identity := by
  cases addresses with
  | unnamed noUsers noGroups => simp [concerns, Audience.Includes, noUsers, noGroups]
  | users star noGroups =>
      have matching : ∃ pattern ∈ rule.users, matchesPattern pattern identity.user = true :=
        ⟨"*", star, matchesPattern_star identity.user⟩
      simp [concerns, Audience.Includes, matching]
  | groups noUsers star =>
      simp only [concerns, Audience.Includes, noUsers, List.isEmpty_iff, List.any_nil,
        List.any_eq_true, Bool.or_eq_true, Bool.and_eq_true, List.isEmpty_nil, true_and,
        Bool.false_eq_true, or_false, forall_const]
      constructor
      · rintro (noGroups | ⟨pattern, -, group, among, -⟩)
        · rw [noGroups] at star
          cases star
        · exact List.ne_nil_of_mem among
      · intro grouped
        rcases List.exists_mem_of_ne_nil _ grouped with ⟨group, among⟩
        exact Or.inr ⟨"*", star, group, among, matchesPattern_star group⟩

/-- A rule for everyone is about the requests of the callers that it includes. -/
theorem IsForAll.applies_iff (forAll : rule.IsForAll audience) (identity : Identity)
    (action resource : String) :
    rule.applies identity action resource = true ↔ audience.Includes identity := by
  simp only [applies, matchesAny_of_isWild forAll.actions, matchesAny_of_isWild forAll.resources,
    Bool.and_true, forAll.callers.concerns_iff]

end AccessRule

section Lists

variable {before after : List AccessRule} {rule : AccessRule} {identity : Identity}
  {action resource : String}

/-- The first rule that matches decides. -/
theorem isAllowed_of_first
    (earlier : ∀ other ∈ before, other.applies identity action resource = false)
    (matching : rule.applies identity action resource = true) :
    isAllowed (before ++ rule :: after) identity action resource = rule.allow := by
  have passed : before.find? (·.applies identity action resource) = none :=
    List.find?_eq_none.mpr fun other among => by simp [earlier other among]
  simp only [isAllowed, List.find?_append, passed, Option.none_or, List.find?_cons, matching]

/-- A rule that does not match leaves the decision to the others, and without others to no one. -/
theorem isAllowed_of_passed (passed : rule.applies identity action resource = false) :
    isAllowed (before ++ rule :: after) identity action resource =
      (!(before ++ after).isEmpty && isAllowed (before ++ after) identity action resource) := by
  have found : (before ++ rule :: after).find? (·.applies identity action resource) =
      (before ++ after).find? (·.applies identity action resource) := by
    rw [List.find?_append, List.find?_cons_of_neg (by simp [passed]), ← List.find?_append]
  rw [isAllowed, isAllowed, found]
  cases decision : (before ++ after).find? (·.applies identity action resource) with
  | none => cases (before ++ after).isEmpty <;> simp
  | some other =>
      have others : (before ++ after).isEmpty = false :=
        List.isEmpty_eq_false_iff.mpr (List.ne_nil_of_mem (List.mem_of_find?_eq_some decision))
      simp [others]

end Lists

/-- A rule for everyone matches every request exactly if it does not name its callers by groups. For
a caller that it includes, which then is one with a group, it decides whenever no earlier rule does.
For all others it is as if it were not in the list. -/
theorem wildcards_match_iff {rule : AccessRule} {audience : Audience}
    (forAll : rule.IsForAll audience) :
    ((∀ identity action resource, rule.applies identity action resource = true) ↔
      audience ≠ .groups) ∧
    ∀ (before after : List AccessRule) (identity : Identity) (action resource : String),
      (rule.applies identity action resource = true ↔ audience.Includes identity) ∧
      (audience.Includes identity →
        (∀ earlier ∈ before, earlier.applies identity action resource = false) →
        isAllowed (before ++ rule :: after) identity action resource = rule.allow) ∧
      (¬audience.Includes identity →
        isAllowed (before ++ rule :: after) identity action resource =
          (!(before ++ after).isEmpty &&
            isAllowed (before ++ after) identity action resource)) := by
  constructor
  · constructor
    · rintro every rfl
      exact (forAll.applies_iff ⟨"", []⟩ "" "").mp (every _ _ _) rfl rfl
    · intro named identity action resource
      exact (forAll.applies_iff identity action resource).mpr fun groups => absurd groups named
  · intro before after identity action resource
    have applies := forAll.applies_iff identity action resource
    refine ⟨applies, fun included earlier => ?_, fun excluded => ?_⟩
    · exact isAllowed_of_first earlier (applies.mpr included)
    · apply isAllowed_of_passed
      rwa [← Bool.not_eq_true, applies]

/-- A rule that refuses all groups everything. -/
def refuseGroups : AccessRule := { groups := ["ml", "*"], actions := ["read", "*"] }

theorem refuseGroups_isForAll : refuseGroups.IsForAll .groups :=
  ⟨.groups rfl (by decide), .inr (by decide), .inl rfl⟩

/-- A rule for another caller before it and one for everyone after it do not keep the rule from a
caller with a group. -/
theorem refuseGroups_refuses_grouped :
    refuseGroups.IsForAll .groups ∧
      isAllowed [{ users := ["mallory"], allow := true }, refuseGroups, { allow := true }]
        ⟨"alice", ["visitors"]⟩ "write" "llama" = false := by
  refine ⟨refuseGroups_isForAll, ?_⟩
  have decides := (wildcards_match_iff refuseGroups_isForAll).2
    [{ users := ["mallory"], allow := true }] [{ allow := true }] ⟨"alice", ["visitors"]⟩
    "write" "llama"
  have included : Audience.groups.Includes ⟨"alice", ["visitors"]⟩ := fun _ => by decide
  exact decides.2.1 included (by decide)

/-- A caller without groups is passed over, and the rule after it allows what was refused. -/
theorem refuseGroups_passes_groupless :
    refuseGroups.IsForAll .groups ∧
      refuseGroups.applies ⟨"alice", []⟩ "read" "llama" = false ∧
      isAllowed [refuseGroups, { allow := true }] ⟨"alice", []⟩ "read" "llama" = true :=
  ⟨refuseGroups_isForAll, by decide, by decide⟩

end Fleet
