import SeedNode.Toml.Text

/-!
# Keys of a settings document

A key is one part or several, joined by dots with blanks around them. A part is a bare word or a
text on one line.
-/

namespace SeedNode.Toml

/-- Whether a character may stand in a bare part of a key. -/
def isBare (c : Char) : Bool :=
  c.isAlphanum || c == '-' || c == '_'

def keyPart (ahead : List Char) : Except Stop (Taken String) :=
  match ahead with
  | [] => stop .keyStart []
  | c :: _ =>
    if isBare c then .ok (String.ofList (ahead.takeWhile isBare), ahead.dropWhile isBare)
    else if c = '\'' ∨ c = '"' then (lineText ahead).map fun r => (String.ofList r.1, r.2)
    else stop .keyStart ahead

/-- A key and the blanks after it. `fuel` bounds the number of its parts. -/
def key : Nat → List Char → Except Stop (Taken Key)
  | 0, ahead => stop .keyStart ahead
  | fuel + 1, ahead => do
    let (part, after) ← keyPart ahead
    match skipBlanks after with
    | '.' :: rest =>
      let (parts, after) ← key fuel (skipBlanks rest)
      return (part :: parts, after)
    | after => return ([part], after)

/-- A key, as long as the characters ahead allow. -/
def readKey (ahead : List Char) : Except Stop (Taken Key) :=
  key (ahead.length + 1) ahead

end SeedNode.Toml
