import ServiceKit.System.Fault
import ServiceKit.Text.Quoted

namespace ServiceKit

/-- Why a filter directive was not understood. -/
inductive DirectiveFault where
  | form
  | level
deriving DecidableEq, Repr

namespace DirectiveFault

def message : DirectiveFault → String
  | form => "invalid filter directive"
  | level => "error parsing level filter: expected one of \"off\", \"error\", \"warn\", \"info\", " ++
      "\"debug\", \"trace\", or a number 0-5"

end DirectiveFault

inductive LogError where
  | unknownLevel (text : String)
  | unknownFormat (text : String)
  | emptyName
  | noFiles
  | badDirectives (text : String) (fault : DirectiveFault)
  | noOutput
  | directory (path : String) (fault : OsFault)
  | file (fault : OsFault)
  | alreadySet
deriving DecidableEq, Repr

namespace LogError

def context : LogError → Option String
  | unknownLevel _ => some "log_level"
  | unknownFormat _ => some "log_format"
  | directory path _ => some ("Failed to create log directory " ++ path)
  | _ => none

def title : LogError → String
  | directory .. => "Internal logger error"
  | file _ => "Rolling file appender error"
  | alreadySet => "Tracing subscriber error"
  | _ => "Invalid logger configuration"

def detail : LogError → String
  | unknownLevel text => "unknown log level " ++ Text.quoted text
  | unknownFormat text =>
    "unknown log format " ++ Text.quoted text ++ ", expected \"standard\" or \"json\""
  | emptyName => "logger name cannot be empty"
  | noFiles => "max_files must be greater than zero"
  | badDirectives text fault =>
    "invalid filter directives " ++ Text.quoted text ++ ": " ++ fault.message
  | noOutput => "no output enabled; enable the console or set a log directory"
  | directory _ fault => fault.message
  | file fault => "failed to create initial log file: " ++ fault.message
  | alreadySet => "a global default trace dispatcher has already been set"

def message (e : LogError) : String :=
  let place := match e.context with
    | none => ""
    | some c => " (" ++ c ++ ")"
  e.title ++ place ++ ": " ++ e.detail

end LogError

end ServiceKit
