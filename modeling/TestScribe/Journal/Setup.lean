import TestScribe.Failure.Problem
import TestScribe.Journal.Record

/-!
# Setting up the log

The log has a level, below which records are dropped, and goes to the console and to a file that is
replaced every day. A level is named in any case; a name that is not known stands for the level of
information.
-/

namespace TestScribe.Journal

/-- What a word can stand for where a level is named. Two of the words name something else. -/
inductive Naming
  | level (number : Nat)
  | words (text : String)
  | table

/-- What the words stand for. -/
def namings : List (String × Naming) := [
  ("CRITICAL", .level 50),
  ("FATAL", .level 50),
  ("ERROR", .level 40),
  ("WARNING", .level 30),
  ("WARN", .level 30),
  ("INFO", .level 20),
  ("DEBUG", .level 10),
  ("NOTSET", .level 0),
  ("BASIC_FORMAT", .words "%(levelname)s:%(name)s:%(message)s"),
  ("_STYLES", .table)]

/-- The level of information. -/
def defaultLevel : Nat := 20

/-- A letter in upper case, as far as words for levels are concerned: the dotless i and the long s
have upper-case forms among them. -/
def upperChar (c : Char) : Char :=
  if c.toNat == 0x131 then 'I' else if c.toNat == 0x17F then 'S' else c.toUpper

/-- What a word stands for. -/
def naming? (word : String) : Option Naming :=
  (namings.find? fun n => n.1 == word.map upperChar).map (·.2)

/-- The level that a word names. -/
def levelNamed (word : String) : Except Defect Nat :=
  match naming? word with
  | some (.level n) => .ok n
  | some (.words text) => .error (.badValue ("Unknown level: '" ++ text ++ "'"))
  | some .table => .error .wrongType
  | none => .ok defaultLevel

/-- Where records go. -/
inductive Sink
  | console
  | file
  deriving DecidableEq

/-- How the log is set up. -/
structure Setup where
  level : Nat
  sinks : List Sink

/-- Set up the log. What was set up before does not count. -/
def configure (word : String) (toFile toConsole : Bool) : Except Defect Setup :=
  (levelNamed word).map fun level =>
    { level, sinks := (if toFile then [.file] else []) ++ (if toConsole then [.console] else []) }

/-- Seconds after which a new file is begun. -/
def filePeriod : Nat := 86400

/-- Old files that are kept. -/
def filesKept : Nat := 7

end TestScribe.Journal
