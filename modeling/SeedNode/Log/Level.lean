import SeedNode.Failure

/-!
# Log levels

A level is an integer. Five of them have names that head each line, and eight names, in any letter
case, can be asked for. A word that names no level stands for the level of ordinary information.
-/

namespace SeedNode

abbrev Level := Int

namespace Level

def debug : Level := 10

def info : Level := 20

/-- Something is amiss, and the daemon goes on. -/
def warning : Level := 30

/-- Something failed. -/
def error : Level := 40

/-- The levels with a name of their own. -/
def named : List (Level × String) :=
  [(0, "NOTSET"), (10, "DEBUG"), (20, "INFO"), (30, "WARNING"), (40, "ERROR"), (50, "CRITICAL")]

def name (level : Level) : String :=
  (named.lookup level).getD s!"Level {level}"

/-- The names under which a level can be asked for. -/
def byName : List (String × Level) :=
  [("NOTSET", 0), ("DEBUG", 10), ("INFO", 20), ("WARNING", 30), ("WARN", 30), ("ERROR", 40),
   ("CRITICAL", 50), ("FATAL", 50)]

/-- A character in upper case, as far as the result can stand in a name of a level. -/
def upper (c : Char) : List Char :=
  if c = 'ı' then ['I']
  else if c = 'ſ' then ['S']
  else if c = 'ß' then ['S', 'S']
  else if c = 'ﬀ' then ['F', 'F']
  else if c = 'ﬁ' then ['F', 'I']
  else if c = 'ﬂ' then ['F', 'L']
  else if c = 'ﬃ' then ['F', 'F', 'I']
  else if c = 'ﬄ' then ['F', 'F', 'L']
  else if c = 'ﬅ' ∨ c = 'ﬆ' then ['S', 'T']
  else [c.toUpper]

/-- The line format that a reserved word stands for. It is no level. -/
def basicFormat : String := "%(levelname)s:%(name)s:%(message)s"

/-- The table of line formats that a reserved word stands for. It is no level either. -/
def styleTable : String :=
  "\x7b'%': (<class 'logging.PercentStyle'>, '%(levelname)s:%(name)s:%(message)s'), "
    ++ "'\x7b': (<class 'logging.StrFormatStyle'>, "
    ++ "'\x7blevelname\x7d:\x7bname\x7d:\x7bmessage\x7d'), "
    ++ "'$': (<class 'logging.StringTemplateStyle'>, "
    ++ "'$\x7blevelname\x7d:$\x7bname\x7d:$\x7bmessage\x7d')\x7d"

/-- The level that a word asks for. Two reserved words are refused; any other word that names no
level asks for ordinary information. -/
def ofWord (word : String) : Except Fault Level :=
  let name := String.ofList (word.toList.flatMap upper)
  match byName.lookup name with
  | some level => .ok level
  | none =>
    if name = "BASIC_FORMAT" then .error (.unknownLevel basicFormat)
    else if name = "_STYLES" then .error (.unusableLevel styleTable)
    else .ok info

end Level

/-- A level as it is asked for: by number or by word. -/
inductive LevelChoice where
  | number (level : Level)
  | word (text : String)
  deriving Repr, DecidableEq

def LevelChoice.resolve : LevelChoice → Except Fault Level
  | number level => .ok level
  | word text => Level.ofWord text

end SeedNode
