import SeedNode.Text.Quoted

/-!
# Problems in a settings document

A reader works on the characters that are still ahead of it. A problem is reported with those that
were ahead when it was met, so its place in the document follows from how many they are.
-/

namespace SeedNode.Toml

/-- A dotted key, outermost part first. -/
abbrev Key := List String

/-- What is wrong at some place of a document. -/
inductive Complaint where
  | invalidStatement
  | statementTail
  | invalidCharacter (c : Char)
  | expected (token : String)
  | keyStart
  | keyTail
  | unterminated
  | illegalCharacter (c : Char)
  | badEscape
  | hexValue
  | notScalar
  | invalidValue
  | invalidDate
  | unclosedArray
  | unclosedInline
  | duplicateInline (part : String)
  | immutable (key : Key)
  | overwrite
  | declaredTwice (key : Key)
  | tableTail
  | arrayTail
  | redefined (key : Key)
  deriving Repr, DecidableEq

def Complaint.message : Complaint → String
  | invalidStatement => "Invalid statement"
  | statementTail => "Expected newline or end of document after a statement"
  | invalidCharacter c => "Found invalid character " ++ Quoted.quote (String.singleton c)
  | expected token => "Expected " ++ Quoted.quote token
  | keyStart => "Invalid initial character for a key part"
  | keyTail => "Expected '=' after a key in a key/value pair"
  | unterminated => "Unterminated string"
  | illegalCharacter c => "Illegal character " ++ Quoted.quote (String.singleton c)
  | badEscape => "Unescaped '\\' in a string"
  | hexValue => "Invalid hex value"
  | notScalar => "Escaped character is not a Unicode scalar value"
  | invalidValue => "Invalid value"
  | invalidDate => "Invalid date or datetime"
  | unclosedArray => "Unclosed array"
  | unclosedInline => "Unclosed inline table"
  | duplicateInline part => "Duplicate inline table key " ++ Quoted.quote part
  | immutable key => "Cannot mutate immutable namespace " ++ Quoted.group key
  | overwrite => "Cannot overwrite a value"
  | declaredTwice key => "Cannot declare " ++ Quoted.group key ++ " twice"
  | tableTail => "Expected ']' at the end of a table declaration"
  | arrayTail => "Expected ']]' at the end of an array declaration"
  | redefined key => "Cannot redefine namespace " ++ Quoted.group key

/-- Why reading stopped: a complaint with the characters ahead of it, or a decimal integer with
more digits than the limit. -/
inductive Stop where
  | syntaxAt (complaint : Complaint) (ahead : List Char)
  | tooLong (digits : Nat)
  deriving Repr, DecidableEq

/-- What was read from the front, and the characters after it. -/
abbrev Taken (α : Type) := α × List Char

def stop {α : Type} (complaint : Complaint) (ahead : List Char) : Except Stop α :=
  .error (.syntaxAt complaint ahead)

/-- The number of a document's line on which its last `ahead` characters begin, and the number of
the column, both from one. -/
def lineAndColumn (document : List Char) (ahead : Nat) : Nat × Nat :=
  let before := document.take (document.length - ahead)
  (before.count '\n' + 1, (before.reverse.takeWhile (· != '\n')).length + 1)

def place (document : List Char) (ahead : List Char) : String :=
  if ahead = [] then "at end of document"
  else
    let (line, column) := lineAndColumn document ahead.length
    s!"at line {line}, column {column}"

/-! ## Blanks and comments -/

def isBlank (c : Char) : Bool :=
  c == ' ' || c == '\t'

def isSpace (c : Char) : Bool :=
  isBlank c || c == '\n'

def isControl (c : Char) : Bool :=
  c.toNat < 32 || c.toNat == 127

/-- Whether a character may stand in a text that stays on its line. -/
def lineLegal (c : Char) : Bool :=
  !isControl c || c == '\t'

/-- Whether a character may stand in a text that runs over several lines. -/
def linesLegal (c : Char) : Bool :=
  lineLegal c || c == '\n'

def skipBlanks (ahead : List Char) : List Char :=
  ahead.dropWhile isBlank

/-- The characters after the comment ahead, if there is one. -/
def skipComment (ahead : List Char) : Except Stop (List Char) :=
  match ahead with
  | '#' :: rest =>
    match rest.dropWhile lineLegal with
    | [] => .ok []
    | c :: after => if c = '\n' then .ok (c :: after) else stop (.invalidCharacter c) (c :: after)
  | _ => .ok ahead

/-- The characters after any number of blanks, line breaks and comments. `commented` says that a
comment has begun on the current line. -/
def skipFrom (commented : Bool) : List Char → Except Stop (List Char)
  | [] => .ok []
  | c :: rest =>
    if commented then
      if c = '\n' then skipFrom false rest
      else if lineLegal c then skipFrom true rest
      else stop (.invalidCharacter c) (c :: rest)
    else if c = '#' then skipFrom true rest
    else if isSpace c then skipFrom false rest
    else .ok (c :: rest)

/-- The characters after any number of blanks, line breaks and comments. -/
def skipFiller (ahead : List Char) : Except Stop (List Char) :=
  skipFrom false ahead

end SeedNode.Toml
