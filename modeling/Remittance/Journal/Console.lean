import Remittance.Fault
import Remittance.Text.LetterCase

/-!
# Setting up the log

The root logger has a level and handlers in order, and a set-up gives both it and the console
handler the level of a name. The console handler is recognized by its name and added at the end
if there is none yet. A name that stands for no level at all leaves the logger as it is.
-/

namespace Remittance.Journal

/-- A handler, with its name if it has one. -/
structure Handler where
  name : Option String
  level : Int
deriving Repr, DecidableEq

/-- The root logger. -/
structure Root where
  level : Int
  handlers : List Handler
deriving Repr, DecidableEq

/-- The name of the console handler. -/
def consoleName : String := "payinstruct-console"

/-- The level whose name is used when none is given. -/
def defaultLevelName : String := "INFO"

/-- The levels by their names in upper case. -/
def levels : List (String × Int) :=
  [("CRITICAL", 50), ("FATAL", 50), ("ERROR", 40), ("WARNING", 30), ("WARN", 30), ("INFO", 20),
    ("DEBUG", 10), ("NOTSET", 0)]

/-- The layout of a record. -/
def layout : String := "%(levelname)s:%(name)s:%(message)s"

/-- The layouts of a record by the mark of their style, as a message shows them. -/
def layouts : String :=
  "\x7b'%': (<class 'logging.PercentStyle'>, '%(levelname)s:%(name)s:%(message)s'), " ++
    "'\x7b': (<class 'logging.StrFormatStyle'>, " ++
    "'\x7blevelname\x7d:\x7bname\x7d:\x7bmessage\x7d'), " ++
    "'$': (<class 'logging.StringTemplateStyle'>, " ++
    "'$\x7blevelname\x7d:$\x7bname\x7d:$\x7bmessage\x7d')\x7d"

/-- The names that stand for something other than a level, with the faults they give. -/
def otherNames : List (String × Fault) :=
  [("BASIC_FORMAT", .unknownLevel layout), ("_STYLES", .notLevel layouts)]

/-- The level that a name in any letter case stands for. A name that is not known stands for the
level of information. -/
def levelOf (name : String) : Except Fault Int :=
  let wanted := Text.upperCase name
  match otherNames.lookup wanted with
  | some fault => .error fault
  | none => .ok ((levels.lookup wanted).getD 20)

/-- The handlers with the level of the first console handler set, or with one added. -/
def setConsole (level : Int) : List Handler → List Handler
  | [] => [⟨some consoleName, level⟩]
  | handler :: rest =>
      if handler.name = some consoleName then { handler with level := level } :: rest
      else handler :: setConsole level rest

/-- Set up the log with a level name. -/
def setUp (name : Option String) (root : Root) : Except Fault Root :=
  (levelOf (name.getD defaultLevelName)).map fun level =>
    ⟨level, setConsole level root.handlers⟩

/-- Set up the log with a supplied level name. Null counts as no name. -/
def setUpSupplied (name : Value) (root : Root) : Except Fault Root :=
  match name with
  | .null => setUp none root
  | .text name => setUp (some name) root
  | name => .error (.noLetters name.typeName)

/-- Each set-up of a sequence, with its fault if it has one and the root logger after it. -/
def setUps (root : Root) : List Value → List (Option Fault × Root)
  | [] => []
  | name :: rest =>
      match setUpSupplied name root with
      | .ok changed => (none, changed) :: setUps changed rest
      | .error fault => (some fault, root) :: setUps root rest

end Remittance.Journal
