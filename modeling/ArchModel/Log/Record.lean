import ArchModel.Text.Lines

/-!
# Log records

A record has a stage, a level and a message. What a run tells of its stages is a list of records;
it is derived from the results of the stages.

* `LogRecord.line` is a record on the console, `LogRecord.fileLine` one in a file.
* `LogLevel.admits` says which records a threshold lets pass.
-/

namespace ArchModel

/-- How much a record matters. -/
inductive LogLevel
  | debug
  | info
  | warning
  | error
  | critical
  deriving DecidableEq, Repr, Inhabited

namespace LogLevel

/-- The word for a level. -/
def word : LogLevel → String
  | debug => "DEBUG"
  | info => "INFO"
  | warning => "WARNING"
  | error => "ERROR"
  | critical => "CRITICAL"

/-- The levels, the least one first. -/
def all : List LogLevel := [debug, info, warning, error, critical]

/-- The level of a word. -/
def ofWord? (s : String) : Option LogLevel := all.find? (·.word = s)

/-- The rank of a level. -/
def rank : LogLevel → Nat
  | debug => 0
  | info => 1
  | warning => 2
  | error => 3
  | critical => 4

/-- Whether a threshold lets a level pass. -/
def admits (threshold level : LogLevel) : Bool := threshold.rank ≤ level.rank

/-- The threshold of a run. -/
def threshold (verbose : Bool) : LogLevel := if verbose then debug else info

end LogLevel

/-- One thing that a run tells. -/
structure LogRecord where
  /-- The stage of the run, empty for the run as a whole. -/
  stage : String
  level : LogLevel
  message : String
  deriving DecidableEq, Repr, Inhabited

namespace LogRecord

/-- The name under which a run as a whole tells something. -/
def wholeRun : String := "c4model"

/-- The record on the console. -/
def line (r : LogRecord) : String :=
  "[" ++ (if r.stage = "" then wholeRun else r.stage) ++ "] " ++ r.level.word ++ " " ++ r.message

/-- The record in a file, behind the time. -/
def fileLine (r : LogRecord) : String :=
  r.level.word ++ " " ++ wholeRun ++ (if r.stage = "" then "" else "." ++ r.stage) ++ ": " ++
    r.message

/-- The records that a threshold lets pass. -/
def passing (threshold : LogLevel) (rs : List LogRecord) : List LogRecord :=
  rs.filter fun r => threshold.admits r.level

end LogRecord

/-- Where the records of a run go. -/
structure LogSetup where
  /-- The least level that is told. -/
  threshold : LogLevel := .info
  /-- Whether records also go to a file. -/
  toFile : Bool := false
  deriving DecidableEq, Repr, Inhabited

namespace LogSetup

/-- The number of places that records go to. -/
def handlers (s : LogSetup) : Nat := if s.toFile then 2 else 1

/-- The lines on the console. -/
def consoleLines (s : LogSetup) (rs : List LogRecord) : List String :=
  (LogRecord.passing s.threshold rs).map LogRecord.line

/-- The lines in the file, without their times. -/
def fileLines (s : LogSetup) (rs : List LogRecord) : List String :=
  if s.toFile then (LogRecord.passing s.threshold rs).map LogRecord.fileLine else []

end LogSetup

end ArchModel
