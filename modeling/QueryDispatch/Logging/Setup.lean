import QueryDispatch.Environment
import QueryDispatch.Logging.Filter

/-!
# Setting up the log of a process

The log of a process is installed once. Settings are judged before that is asked, so a filter that
cannot be read is reported as such even where a log is installed already.

The first thing a log says is that it is there, provided that its own filter lets that pass.
-/

namespace QueryDispatch.Logging

/-- Why a log could not be set up, with the reason in words. -/
inductive SetupError where
  | filter (reason : String)
  | install (reason : String)
  deriving DecidableEq

namespace SetupError

/-- The text of the error. -/
def message : SetupError → String
  | .filter reason => "invalid log filter: " ++ reason
  | .install reason => "failed to install subscriber: " ++ reason

/-- A log is installed already. -/
def alreadyInstalled : SetupError :=
  .install "a global default trace dispatcher has already been set"

end SetupError

/-- What a log writes of its own installation. -/
inductive Announcement where
  /-- One line of text. -/
  | line (text : String)
  /-- A record, with the settings as its fields. -/
  | record (severity : Severity) (target message : String) (settings : LogSettings)
  deriving DecidableEq

namespace Announcement

/-- The severity of the announcement. -/
def severity : Severity := .debug

/-- Where the announcement comes from. -/
def target : String := "qc_18_query_worker::telemetry"

/-- What is written once the log is installed. -/
def message : String := "Logging initialized"

/-- The announcement of a log with given settings, in the form they ask for. -/
def ofSettings (s : LogSettings) : Announcement :=
  if s.json then .record severity target message s
  else .line (severity.name ++ " " ++ target ++ ": " ++ message ++ " log_level=" ++ s.level ++
    " json_logs=" ++ (if s.json then "true" else "false"))

end Announcement

/-- The log of a process. -/
structure ProcessLog where
  /-- The settings it was installed with. -/
  installed : Option LogSettings := none
  /-- What it has written so far. -/
  written : List Announcement := []
  deriving DecidableEq

namespace ProcessLog

/-- Asks for a log with given settings. -/
def setUp (p : ProcessLog) (s : LogSettings) : ProcessLog × Option SetupError :=
  match Filter.parse s.level with
  | .error e => (p, some (.filter e.message))
  | .ok f =>
    match p.installed with
    | some _ => (p, some .alreadyInstalled)
    | none =>
      let announced := f.admits Announcement.target Announcement.severity
      ({ installed := some s
         written := p.written ++ if announced then [.ofSettings s] else [] }, none)

/-- Asks for logs in turn, and collects what each request met. -/
def setUpAll (p : ProcessLog) : List LogSettings → ProcessLog × List (Option SetupError)
  | [] => (p, [])
  | s :: rest =>
    let (p, result) := p.setUp s
    let (p, results) := p.setUpAll rest
    (p, result :: results)

end ProcessLog

end QueryDispatch.Logging
