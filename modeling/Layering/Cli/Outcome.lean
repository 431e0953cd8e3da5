import Layering.Analysis.Validator
import Layering.Json.Printer
import Layering.Log

/-!
# Outcomes of a command

What a command leaves behind: an exit code, a text on each output stream, and the files.
-/

namespace Layering.Cli

/-- Why a command failed. -/
inductive Failure where
  | loading (path : String) (fault : Config.Fault)
  | noConfiguration
  | writing (path : String) (fault : FileFault)
  | writingReport (path : String) (fault : FileFault)
  | library (e : Error)

def Failure.message : Failure → String
  | .loading path fault =>
    "Failed to load configuration from " ++ path ++ ": " ++ (Error.configuration fault).message
  | .noConfiguration => "No configuration file found; pass one explicitly"
  | .writing path fault => "Failed to write " ++ path ++ ": " ++ fault.message
  | .writingReport path fault => "Failed to write report to " ++ path ++ ": " ++ fault.message
  | .library e => e.message

/-- What goes to the error stream: messages, and events that are logged. -/
inductive Note where
  | message (text : String)
  | event (e : Log.Event)
deriving DecidableEq, Repr

/-- The exit code when violations were found. -/
def exitViolations : Nat := 1

/-- The exit code when the command failed. -/
def exitFailure : Nat := 2

/-- What a command leaves behind. -/
structure Outcome where
  exit : Nat := 0
  /-- The lines printed, or the text of a report. -/
  output : String := ""
  notes : List Note := []
  /-- The file that was written, with its text. -/
  written : Option (String × String) := none
  /-- The files as the command leaves them. -/
  files : FileSystem

/-- Lines as a text, each with its end. -/
def unlines (lines : List String) : String := String.join (lines.map (· ++ "\n"))

/-- The outcome of a command that failed after some notes. -/
def Outcome.failed (files : FileSystem) (notes : List Note) (f : Failure) : Outcome :=
  { exit := exitFailure, notes := notes ++ [.message ("Error: " ++ f.message)], files }

/-! ## The error stream -/

/-- How events are logged. -/
structure LogSettings where
  /-- Events less important than this are left out. -/
  level : Log.Level := .warn
  json : Bool := false

/-- The level of an event, padded to five characters. -/
def levelColumn (level : Log.Level) : String :=
  String.ofList (List.replicate (5 - level.name.length) ' ') ++ level.name

/-- The line of an event that happened at a time. -/
def eventLine (json : Bool) (time : String) (e : Log.Event) : String :=
  if json then
    (Json.object [("timestamp", .string time), ("level", .string e.level.name),
      ("fields", .object [("message", .string e.message)])]).compact
  else time ++ " " ++ levelColumn e.level ++ " " ++ e.message

/-- The line of a note, unless it is not important enough. -/
def Note.line? (log : LogSettings) (time : String) : Note → Option String
  | .message text => some text
  | .event e => if e.reaches log.level then some (eventLine log.json time e) else none

/-- The text on the error stream. -/
def Outcome.errorText (o : Outcome) (log : LogSettings) (time : String) : String :=
  unlines (o.notes.filterMap (Note.line? log time))

end Layering.Cli
