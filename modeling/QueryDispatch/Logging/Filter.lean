import QueryDispatch.Logging.Severity
import QueryDispatch.Text.Characters

/-!
# Log filters

A filter is a comma-separated list of directives. A directive gives a level to the events of every
target that starts with its own; one without a target speaks for all of them. The most particular
directive for an event decides, and of two for the same target the later one.

A filter that says nothing lets errors through, from anywhere.
-/

namespace QueryDispatch.Logging

/-- Why a filter cannot be read. -/
inductive FilterError where
  /-- A directive starts with a character no target or level starts with. -/
  | badDirective
  /-- What follows the equals sign is no level. -/
  | badLevel
  deriving DecidableEq

namespace FilterError

/-- The text of the error. -/
def message : FilterError → String
  | .badDirective => "invalid filter directive"
  | .badLevel =>
    "error parsing level filter: expected one of \"off\", \"error\", \"warn\", \"info\", " ++
      "\"debug\", \"trace\", or a number 0-5"

end FilterError

/-- A level for the targets that start in one way. -/
structure Directive where
  /-- How the targets start; empty where the directive speaks for all. -/
  target : String := ""
  level : Level
  deriving DecidableEq

namespace Directive

/-- The characters a directive may start with. -/
def isInitial (c : Char) : Bool := Text.isAlphanumeric c || c == '-' || c == ':' || c == '_'

/-- The level behind an equals sign; everything passes where none is given. -/
def levelAfter : List Char → Except FilterError Level
  | [] => .ok (.downTo .trace)
  | text =>
    match Level.parse? (String.ofList text) with
    | some level => .ok level
    | none => .error .badLevel

/-- Reads a directive. Without an equals sign it is a level if it reads as one, and otherwise a
target from which everything passes. -/
def parse (text : List Char) : Except FilterError Directive :=
  match text with
  | [] => .error .badDirective
  | first :: _ =>
    if !isInitial first then .error .badDirective
    else
      let target := String.ofList (text.takeWhile (· != '='))
      match text.dropWhile (· != '=') with
      | _ :: level => (levelAfter level).map fun level ↦ { target, level }
      | [] =>
        match Level.parse? target with
        | some level => .ok { level }
        | none => .ok { target, level := .downTo .trace }

/-- Whether a directive speaks for a target. -/
def covers (d : Directive) (target : String) : Bool := d.target.toList.isPrefixOf target.toList

/-- The more particular of a directive and a later one. -/
def refine (best : Option Directive) (d : Directive) : Option Directive :=
  match best with
  | some b => if d.target.length < b.target.length then some b else some d
  | none => some d

end Directive

/-- The directives of a filter, in the order given. -/
structure Filter where
  directives : List Directive
  deriving DecidableEq

namespace Filter

/-- Reads a filter; empty parts say nothing, and the first unreadable one fails it. -/
def parse (s : String) : Except FilterError Filter :=
  (((s.toList.splitOn ',').filter (!·.isEmpty)).mapM Directive.parse).map Filter.mk

/-- The directive that decides for a target. -/
def deciding? (f : Filter) (target : String) : Option Directive :=
  (f.directives.filter (·.covers target)).foldl Directive.refine none

/-- Whether events of a target and severity pass. -/
def admits (f : Filter) (target : String) (severity : Severity) : Bool :=
  if f.directives.isEmpty then (Level.downTo .error).admits severity
  else (f.deciding? target).any (·.level.admits severity)

end Filter

end QueryDispatch.Logging
