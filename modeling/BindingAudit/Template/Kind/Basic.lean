/-!
# Kinds of template values

The name of a field may go on behind a point to a member of the value before it.  Which members a
value has is a matter of its kind and of the kinds above that.
-/

namespace BindingAudit.Template

/-- How a member is had. -/
inductive MemberForm where
  /-- An operation that stands behind a call. -/
  | call
  /-- An operation that stands behind an operator. -/
  | operator
  /-- An operation on the kind rather than on its values. -/
  | kindCall
  /-- The operation that makes values of a kind. -/
  | maker
  /-- An operation on neither a value nor the kind. -/
  | fixed
  /-- A value that is found out when it is asked for. -/
  | attribute
  /-- A value that is kept with the value it belongs to. -/
  | slot
  /-- A description, which may be missing. -/
  | plain
deriving DecidableEq, Repr

/-- A member. -/
structure Member where
  name : String
  form : MemberForm
  /-- The parameters of an operation. -/
  signature : Option String := none
  doc : Option String := none
deriving DecidableEq, Repr

/-- A kind of values. -/
structure Kind where
  name : String
  /-- Where the kind is at home. -/
  home : String := "builtins"
  /-- The kinds above it, the nearest first. -/
  above : List String := ["object"]
  members : List Member
  signature : Option String := none
  doc : Option String := none
  size : Nat
  itemSize : Nat := 0
  flags : Nat
  dictOffset : Nat := 0
  weakOffset : Nat := 0

namespace Kind

/-- The name of a kind as messages give it. -/
def fullName (k : Kind) : String :=
  if k.home = "builtins" then k.name else k.home ++ "." ++ k.name

/-- The member that is defined for a kind under a name. -/
def own? (k : Kind) (name : String) : Option Member :=
  k.members.find? fun m => m.name == name

end Kind

end BindingAudit.Template
