import ServiceKit.Logging.Filter
import ServiceKit.System.Files
import ServiceKit.System.Path

namespace ServiceKit

/-- How often a new log file is begun. -/
inductive LogRotation where
  | never
  | hourly
  | daily
deriving DecidableEq, Repr

/-- What a logger is made from, before texts are read. -/
structure LoggerOptions where
  name : String
  levelFilter : LogLevel := .info
  level : Option String := none
  format : Option String := none
  directives : Option String := none
  console : Bool := true
  path : Option String := none
  maxFiles : Option Nat := none
  rotation : LogRotation := .daily
deriving Repr

structure LoggerConfig where
  name : String
  console : Bool := true
  path : Option String := none
  level : LogLevel := .info
  format : LogFormat := .standard
  rotation : LogRotation := .daily
  maxFiles : Nat := 10
  directives : Option String := none
deriving Repr

/-- A way for lines to go: as objects, or as text with or without colours. -/
inductive LineStyle where
  | json
  | text (colours : Bool)
deriving DecidableEq, Repr

/-- A logger at work. -/
structure Logger where
  name : String
  filter : LogFilter
  console : Option LineStyle
  /-- The log file's location and the style of its lines. -/
  file : Option (String × LineStyle)
deriving Repr

namespace LogRotation

/-- What a rotation adds to a file's name, for a moment written as date and hour. -/
def mark (date hour : String) : LogRotation → String
  | never => ""
  | daily => "." ++ date
  | hourly => "." ++ date ++ "-" ++ hour

end LogRotation

namespace LoggerConfig

/-- Reads the texts of options. A limit of files has a meaning only with a directory. -/
def ofOptions (o : LoggerOptions) : Except LogError LoggerConfig := do
  let level ← ((o.level).map LogLevel.read).getD (.ok o.levelFilter)
  let format ← ((o.format).map LogFormat.read).getD (.ok .standard)
  let maxFiles := if o.path.isSome then o.maxFiles.getD 10 else 10
  pure { name := o.name, console := o.console, path := o.path, level, format
         rotation := o.rotation, maxFiles, directives := o.directives }

def validate (c : LoggerConfig) : Except LogError Unit :=
  if Text.trim c.name = "" then .error .emptyName
  else if c.maxFiles = 0 then .error .noFiles
  else .ok ()

/-- The filter of the directives, else of the variable's, of which those not understood are left
out. -/
def filter (setting : Option String) (c : LoggerConfig) : Except LogError LogFilter :=
  match c.directives with
  | some text => (LogFilter.read c.level text).mapError (.badDirectives text)
  | none => .ok (LogFilter.readLossy c.level (setting.getD ""))

def consoleStyle (c : LoggerConfig) : LineStyle :=
  match c.format with
  | .json => .json
  | .standard => .text true

def fileStyle (c : LoggerConfig) : LineStyle :=
  match c.format with
  | .json => .json
  | .standard => .text false

def fileName (date hour : String) (c : LoggerConfig) : String :=
  c.name ++ c.rotation.mark date hour ++ ".log"

/-- Opens a file for lines to be added. -/
def openFile (fs : FileSystem) (path : String) : Except OsFault FileSystem :=
  match fs.node path with
  | .ok (.file _) => .ok fs
  | .ok _ => .error .isDirectory
  | .error .notFound => (fs.locate path).map fun loc => fs.put loc (.file [])
  | .error fault => .error fault

/-- The file system with the log file in it, and where that is. -/
def prepareFile (fs : FileSystem) (date hour : String) (c : LoggerConfig) (dir : String) :
    Except LogError (FileSystem × String) :=
  match fs.createDirs dir with
  | .error fault => .error (.directory dir fault)
  | .ok fs =>
    let path := Path.join dir (c.fileName date hour)
    match openFile fs path with
    | .error fault => .error (.file fault)
    | .ok fs => .ok (fs, path)

/-- Sets up a logger. There is one in a process: the second attempt fails in the end. -/
def init (fs : FileSystem) (setting : Option String) (date hour : String) (isSet : Bool)
    (c : LoggerConfig) : FileSystem × Except LogError Logger :=
  match c.validate, c.filter setting with
  | .error e, _ => (fs, .error e)
  | .ok (), .error e => (fs, .error e)
  | .ok (), .ok filter =>
    let prepared : Except LogError (FileSystem × Option (String × LineStyle)) := match c.path with
      | none => .ok (fs, none)
      | some dir => (prepareFile fs date hour c dir).map fun r => (r.1, some (r.2, c.fileStyle))
    match prepared with
    | .error e => (fs, .error e)
    | .ok (fs, file) =>
      if !c.console && file.isNone then (fs, .error .noOutput)
      else if isSet then (fs, .error .alreadySet)
      else (fs, .ok ⟨c.name, filter, if c.console then some c.consoleStyle else none, file⟩)

end LoggerConfig

namespace Logger

def writesFiles (l : Logger) : Bool :=
  l.file.isSome

/-- The events that pass, in order. -/
def passed (l : Logger) (events : List LogEvent) : List LogEvent :=
  events.filter l.filter.allows

/-- All that a logger writes: its own start, the events of its life, and its end if it has files. -/
def life (level : LogLevel) (format : LogFormat) (events : List LogEvent) (l : Logger) :
    List LogEvent :=
  l.passed (.started l.name level format :: events ++
    if l.writesFiles then [.flushing l.name] else [])

end Logger

end ServiceKit
