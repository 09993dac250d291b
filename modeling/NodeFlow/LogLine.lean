import NodeFlow.Settings
import NodeFlow.Text.Blank

/-!
# Log lines

A log record as one line: time, level, logger and message, with every run of blanks folded to one
space and the line cut at a length. The root logger gets its handler once; later settings change
its level only.
-/

namespace NodeFlow

/-- A record of the log. -/
structure LogRecord where
  message : String
  level : Int
  name : String
  /-- When it was made, in seconds. -/
  created : Int
  /-- The text of an exception, or nothing. -/
  exception : String

namespace LogRecord

/-- The names of the levels; the first one is the level's own name, others stand for it too. -/
def levelNames : List (String × Int) :=
  [("CRITICAL", 50), ("FATAL", 50), ("ERROR", 40), ("WARNING", 30), ("WARN", 30), ("INFO", 20),
   ("DEBUG", 10), ("NOTSET", 0)]

/-- The name of a level. -/
def levelName (level : Int) : String :=
  match levelNames.find? (·.2 == level) with
  | some (name, _) => name
  | none => "Level " ++ toString level

/-- A number below one hundred in two digits. -/
def twoDigits (n : Nat) : String :=
  String.ofList [Nat.digitChar (n / 10), Nat.digitChar (n % 10)]

/-- The time of day of a moment given in seconds. -/
def timeOfDay (created : Int) : String :=
  let second := (created % 86400).toNat
  twoDigits (second / 3600) ++ ":" ++ twoDigits (second / 60 % 60) ++ ":" ++ twoDigits (second % 60)

/-- What marks a line that was cut. -/
def cutMark : String := " …(truncated)"

/-- A line cut after some characters; zero or less for no cut. -/
def cut (maxLen : Int) (line : String) : String :=
  if 0 < maxLen && maxLen < line.length then
    String.ofList (line.toList.take maxLen.toNat) ++ cutMark
  else line

/-- The record as one line. -/
def line (maxLen : Int) (record : LogRecord) : String :=
  let text :=
    timeOfDay record.created ++ " " ++ levelName record.level ++ " [" ++ record.name ++ "] - "
      ++ record.message
  let text := if record.exception.isEmpty then text else text ++ "\n" ++ record.exception
  cut maxLen (Text.foldBlanks text)

end LogRecord

/-- The root logger: its level, and the greatest line length of its handler once it has one. -/
structure RootLogger where
  level : Int
  handler : Option Int
  deriving DecidableEq, Repr

namespace RootLogger

/-- The level that a name stands for; unknown names stand for warnings. -/
def levelOf (name : String) : Int :=
  (LogRecord.levelNames.lookup name).getD 30

/-- Applies settings to the logger. -/
def configure (settings : Settings) (logger : RootLogger) : RootLogger where
  level := levelOf settings.logLevel
  handler := some (logger.handler.getD settings.logMaxLen)

/-- The first handler stays. -/
theorem handler_configure_configure (first second : Settings) (logger : RootLogger) :
    ((logger.configure first).configure second).handler = (logger.configure first).handler := rfl

end RootLogger

example : LogRecord.levelName 25 = "Level 25" := by decide +kernel
example : LogRecord.timeOfDay 86399 = "23:59:59" := by decide +kernel

end NodeFlow
