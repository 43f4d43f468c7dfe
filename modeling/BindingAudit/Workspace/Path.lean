import BindingAudit.Text.Search

/-!
# Paths

A path as text is cut into a root and names.  Empty names and single dots vanish; two dots stay,
because what they lead to is for the directories to say.  Exactly two slashes in front are a root
of their own, any other number is one slash.
-/

namespace BindingAudit

/-- A path: its root, which is empty for a relative path, and its names. -/
structure Path where
  root : String
  names : List String
deriving DecidableEq, Repr, Inhabited

namespace Path

/-- The root a text starts with. -/
def rootOf (cs : List Char) : String :=
  match (cs.takeWhile (· == '/')).length with
  | 0 => ""
  | 2 => "//"
  | _ => "/"

/-- The names of a text between its slashes, without the empty ones and single dots. -/
def namesOf (cs : List Char) : List String :=
  ((Text.splitAt '/' cs).map String.ofList).filter fun n => n != "" && n != "."

/-- The path a text denotes. -/
def ofText (s : String) : Path :=
  ⟨rootOf s.toList, namesOf s.toList⟩

/-- A path continued by another; a path with a root starts anew. -/
def append (p q : Path) : Path :=
  if q.root = "" then ⟨p.root, p.names ++ q.names⟩ else q

/-- The path of several texts, each continuing the one before. -/
def join (parts : List String) : Path :=
  (parts.map ofText).foldl append ⟨"", []⟩

/-- The path without its last name. -/
def parent (p : Path) : Path :=
  ⟨p.root, p.names.dropLast⟩

/-- The text of a path; the empty relative path is a dot. -/
def shown (p : Path) : String :=
  if p.root = "" ∧ p.names = [] then "." else p.root ++ String.intercalate "/" p.names

end Path

end BindingAudit
