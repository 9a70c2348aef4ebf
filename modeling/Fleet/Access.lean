import Fleet.Config.Basic
import Fleet.Text.Cut

/-!
# Access rules

A rule says whether some callers may take some actions on some resources. The first rule that
matches a request decides; where there are rules and none matches, the request is refused.
-/

namespace Fleet

/-- Who makes a request. -/
structure Identity where
  user : String
  groups : List String
  deriving DecidableEq, Repr

/-- Whether a pattern matches a value. A star at the end of a pattern matches any rest. -/
def matchesPattern (pattern value : String) : Bool :=
  match Text.dropTail? ['*'] pattern.toList with
  | some head => (Text.dropHead? head value.toList).isSome
  | none => pattern = value

/-- Whether some pattern matches a value, or there is none. -/
def matchesAny (patterns : List String) (value : String) : Bool :=
  patterns.isEmpty || patterns.any (matchesPattern · value)

namespace AccessRule

/-- Whether the rule is about a caller. A rule that names neither users nor groups is about
everyone. -/
def concerns (rule : AccessRule) (identity : Identity) : Bool :=
  (rule.users.isEmpty && rule.groups.isEmpty) ||
    rule.users.any (matchesPattern · identity.user) ||
    rule.groups.any fun pattern => identity.groups.any (matchesPattern pattern)

/-- Whether the rule is about a request. -/
def applies (rule : AccessRule) (identity : Identity) (action resource : String) : Bool :=
  rule.concerns identity && matchesAny rule.actions action && matchesAny rule.resources resource

end AccessRule

/-- Whether a caller may take an action on a resource. Without rules everything is allowed. -/
def isAllowed (rules : List AccessRule) (identity : Identity) (action resource : String) : Bool :=
  match rules.find? (·.applies identity action resource) with
  | some rule => rule.allow
  | none => rules.isEmpty

end Fleet
