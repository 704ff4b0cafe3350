import SeedNode.Failure

/-!
# Variables of a process

A process has named variables with texts, in the order in which they were first set. The system
ends names and texts with a null character and parts them with an equals sign, so it refuses to set
what it could not tell apart.
-/

namespace SeedNode

/-- Variables of a process, in the order in which they were first set. -/
abbrev Variables := List (String × String)

namespace Variables

/-- Binds a name, in its place if it is bound already. -/
def bind {α : Type} (name : String) (v : α) : List (String × α) → List (String × α)
  | [] => [(name, v)]
  | entry :: rest => if entry.1 = name then (name, v) :: rest else entry :: bind name v rest

def set (name text : String) (v : Variables) : Except Failure Variables :=
  if name.toList.contains '\x00' || text.toList.contains '\x00' then
    .error (.fault .embeddedNull)
  else if name.toList.contains '=' then .error (.fault .variableName)
  else if name = "" then .error (.os (.ofErrno .invalid []))
  else .ok (bind name text v)

/-- Takes a variable away, if it is set. -/
def unset (name : String) (v : Variables) : Variables :=
  v.filter fun entry => entry.1 != name

def ofPairs (pairs : List (String × String)) : Except Failure Variables :=
  pairs.foldlM (fun v pair => set pair.1 pair.2 v) []

end Variables

end SeedNode
