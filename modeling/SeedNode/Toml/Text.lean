import SeedNode.Toml.Problem

/-!
# Texts in a settings document

Literal texts stand between apostrophes and know no escapes. Basic texts stand between quotation
marks and do. Either kind runs over several lines between tripled marks, and then drops a line
break right after the opening mark and may end in one or two marks of its own.
-/

namespace SeedNode.Toml

def startsWith (token : String) (ahead : List Char) : Bool :=
  token.toList.isPrefixOf ahead

/-- The characters before the first occurrence of a token and those from it on; none if there is
no occurrence. -/
def before? (token : String) : List Char → Option (List Char × List Char)
  | [] => none
  | c :: rest =>
    if startsWith token (c :: rest) then some ([], c :: rest)
    else (before? token rest).map fun found => (c :: found.1, found.2)

/-- A literal text up to its closing token. The token is looked for first, the characters are
judged after that. -/
def literalBody (token : String) (legal : Char → Bool) (ahead : List Char) :
    Except Stop (Taken (List Char)) :=
  match before? token ahead with
  | none => stop (.expected token) []
  | some (body, after) =>
    if body.all legal then .ok (body, after.drop token.length)
    else match ahead.dropWhile legal with
      | [] => stop (.expected token) []
      | c :: rest => stop (.invalidCharacter c) (c :: rest)

/-- How the reader of a basic text treats blanks: as text, or as part of a line continuation that
still waits for its line break, or that has seen it. -/
inductive Blanks where
  | kept
  | awaited
  | skipped
  deriving Repr, DecidableEq

def escaped? (c : Char) : Option Char :=
  if c = 'b' then some '\x08'
  else if c = 't' then some '\t'
  else if c = 'n' then some '\n'
  else if c = 'f' then some '\x0c'
  else if c = 'r' then some '\r'
  else if c = '"' then some '"'
  else if c = '\\' then some '\\'
  else none

def hexNumber? (digits : List Char) : Option Nat :=
  digits.foldl (fun n c => do return (← n) * 16 + (← Hex.digit? c)) (some 0)

/-- The character that the digits of a numbered escape stand for, or what is wrong with them. -/
def numbered (digits ahead after : List Char) : Except Stop Char :=
  match hexNumber? digits with
  | none => stop .hexValue ahead
  | some n => if n.isValidChar then .ok (Char.ofNat n) else stop .notScalar after

/-- A basic text up to its closing mark. `done` holds what was read, last character first. -/
def basicBody (lines : Bool) (blanks : Blanks) (done : List Char) :
    List Char → Except Stop (Taken (List Char))
  | [] => stop .unterminated []
  | c :: rest =>
    if blanks = .awaited ∧ isBlank c then basicBody lines .awaited done rest
    else if blanks = .awaited ∧ c = '\n' then basicBody lines .skipped done rest
    else if blanks = .awaited then stop .badEscape (c :: rest)
    else if blanks = .skipped ∧ isSpace c then basicBody lines .skipped done rest
    else if c = '"' then
      if lines = false then .ok (done.reverse, rest)
      else if startsWith "\"\"" rest then .ok (done.reverse, rest.drop 2)
      else basicBody lines .kept (c :: done) rest
    else if c = '\\' then
      match rest with
      | 'u' :: a :: b :: d :: e :: after => do
        let digits := [a, b, d, e]
        let x ← numbered digits (digits ++ after) after
        basicBody lines .kept (x :: done) after
      | 'U' :: a :: b :: d :: e :: f :: g :: h :: i :: after => do
        let digits := [a, b, d, e, f, g, h, i]
        let x ← numbered digits (digits ++ after) after
        basicBody lines .kept (x :: done) after
      | [] => stop .badEscape []
      | l :: after =>
        if l = 'u' ∨ l = 'U' then stop .hexValue after
        else if lines ∧ l = '\n' then basicBody lines .skipped done after
        else if lines ∧ isBlank l then basicBody lines .awaited done after
        else match escaped? l with
          | some x => basicBody lines .kept (x :: done) after
          | none => stop .badEscape after
    else if lineLegal c || lines && linesLegal c then basicBody lines .kept (c :: done) rest
    else stop (.illegalCharacter c) (c :: rest)

/-- Up to two more marks after the closing of a text over several lines belong to the text. -/
def extraMarks (mark : Char) (body ahead : List Char) : List Char × List Char :=
  match ahead with
  | a :: b :: rest =>
    if a = mark ∧ b = mark then (body ++ [mark, mark], rest)
    else if a = mark then (body ++ [mark], b :: rest)
    else (body, ahead)
  | [a] => if a = mark then (body ++ [mark], []) else (body, ahead)
  | [] => (body, [])

/-- The characters after a line break right ahead, if there is one. -/
def skipLineBreak : List Char → List Char
  | '\n' :: rest => rest
  | ahead => ahead

/-- A text on one line, from its opening mark. -/
def lineText (ahead : List Char) : Except Stop (Taken (List Char)) :=
  match ahead with
  | '\'' :: rest => literalBody "'" lineLegal rest
  | _ => basicBody false .kept [] (ahead.drop 1)

/-- A text over several lines, from its opening marks. -/
def linesText (ahead : List Char) : Except Stop (Taken (List Char)) := do
  let rest := skipLineBreak (ahead.drop 3)
  match ahead with
  | '\'' :: _ =>
    let (body, after) ← literalBody "'''" linesLegal rest
    return extraMarks '\'' body after
  | _ =>
    let (body, after) ← basicBody true .kept [] rest
    return extraMarks '"' body after

end SeedNode.Toml
