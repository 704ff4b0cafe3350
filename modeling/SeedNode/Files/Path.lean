import SeedNode.Failure

/-!
# Paths

A path is a root and the names below it. Repeated slashes, a trailing slash and single dots do not
count; a double dot does, since a symbolic link may stand before it. Two slashes at the very
beginning are a root of their own.
-/

namespace SeedNode

/-- A path in its normal form. -/
structure Path where
  /-- Nothing for a relative path, else the slashes it starts with. -/
  root : String
  /-- The names, outermost first. -/
  names : List String
  deriving Repr, DecidableEq

namespace Path

def pieces (text : List Char) : List (List Char) :=
  text.splitOn '/'

/-- The names among the pieces of a text: empty pieces and single dots are none. -/
def namesOf (text : String) : List String :=
  ((pieces text.toList).filter fun piece => piece ≠ [] ∧ piece ≠ ['.']).map String.ofList

def rootOf (text : String) : String :=
  match text.toList.takeWhile (· == '/') with
  | [] => ""
  | [_, _] => "//"
  | _ => "/"

def ofString (text : String) : Path :=
  ⟨rootOf text, namesOf text⟩

/-- The text of a path; the empty relative path is a single dot. -/
def text (p : Path) : String :=
  if p.root = "" ∧ p.names = [] then "." else p.root ++ "/".intercalate p.names

instance : ToString Path := ⟨text⟩

/-- The last name of a path, or the empty text if it has none. -/
def name (p : Path) : String :=
  p.names.getLast?.getD ""

/-- The path with another last name. Fails when there is no last name to replace. -/
def withName (p : Path) (name : String) : Except Failure Path :=
  if p.names = [] then .error (.fault (.noName p.text))
  else .ok ⟨p.root, p.names.dropLast ++ [name]⟩

/-- Whether a null character occurs in the path, which no call of the system takes. -/
def hasNull (p : Path) : Bool :=
  p.text.toList.contains '\x00'

end Path

end SeedNode
