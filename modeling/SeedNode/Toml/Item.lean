import SeedNode.Toml.Key
import SeedNode.Toml.Scalar
import SeedNode.Toml.Marks

/-!
# Values of a settings document

A value is told by its first character. Arrays run over several lines, with comments, and may end
in a comma; inline tables stay on their line and may not.
-/

namespace SeedNode.Toml

/-- An inline table under construction: its entries, and the keys whose values are in one piece. -/
structure Inline where
  entries : Table
  marks : Marks

def Inline.add (t : Inline) (key : Key) (v : Value) (ahead : List Char) : Except Stop Inline := do
  let name := key.getLast?.getD ""
  if t.marks.isFrozen key then stop (.immutable key) ahead
  else match alter false some key.dropLast t.entries with
    | none => stop .overwrite ahead
    | some _ =>
      match alter false (addEntry name v) key.dropLast t.entries with
      | none => stop (.duplicateInline name) ahead
      | some entries =>
        let marks := match v with
          | .table _ | .list _ => t.marks.freeze key
          | _ => t.marks
        return ⟨entries, marks⟩

mutual

/-- A value. `fuel` bounds how deep values nest and how many stand side by side. -/
def value : Nat → List Char → Except Stop (Taken Value)
  | 0, ahead => stop .invalidValue ahead
  | fuel + 1, ahead =>
    match ahead with
    | '"' :: _ | '\'' :: _ =>
      let mark := String.ofList (List.replicate 3 (ahead.headD '"'))
      (if startsWith mark ahead then linesText ahead else lineText ahead).map
        fun r => (.str (String.ofList r.1), r.2)
    | '[' :: rest => do
      let rest ← skipFiller rest
      match rest with
      | ']' :: after => return (.list [], after)
      | _ => (elements fuel [] rest).map fun r => (.list r.1, r.2)
    | '\x7b' :: rest =>
      match skipBlanks rest with
      | '\x7d' :: after => .ok (.table [], after)
      | rest => (pairs fuel ⟨[], .empty⟩ rest).map fun r => (.table r.1, r.2)
    | _ =>
      if startsWith "true" ahead then .ok (.bool true, ahead.drop 4)
      else if startsWith "false" ahead then .ok (.bool false, ahead.drop 5)
      else scalar ahead

/-- The elements of an array up to its bracket. `done` holds those already read, last first. -/
def elements : Nat → List Value → List Char → Except Stop (Taken (List Value))
  | 0, _, ahead => stop .unclosedArray ahead
  | fuel + 1, done, ahead => do
    let (v, after) ← value fuel ahead
    match ← skipFiller after with
    | ']' :: rest => return ((v :: done).reverse, rest)
    | ',' :: rest =>
      match ← skipFiller rest with
      | ']' :: rest => return ((v :: done).reverse, rest)
      | rest => elements fuel (v :: done) rest
    | rest => stop .unclosedArray rest

def pairs : Nat → Inline → List Char → Except Stop (Taken Table)
  | 0, _, ahead => stop .unclosedInline ahead
  | fuel + 1, done, ahead => do
    let ((key, v), after) ← pair fuel ahead
    let done ← done.add key v after
    match skipBlanks after with
    | '\x7d' :: rest => return (done.entries, rest)
    | ',' :: rest => pairs fuel done (skipBlanks rest)
    | rest => stop .unclosedInline rest

/-- A key, an equals sign and a value. -/
def pair : Nat → List Char → Except Stop (Taken (Key × Value))
  | 0, ahead => stop .keyStart ahead
  | fuel + 1, ahead => do
    let (key, after) ← readKey ahead
    match after with
    | '=' :: rest =>
      let (v, after) ← value fuel (skipBlanks rest)
      return ((key, v), after)
    | _ => stop .keyTail after

end

/-- A key, an equals sign and a value, with room for any nesting the characters ahead can hold. -/
def readPair (ahead : List Char) : Except Stop (Taken (Key × Value)) :=
  pair (4 * ahead.length + 4) ahead

end SeedNode.Toml
