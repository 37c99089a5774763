import PageSession.Log.Level
import PageSession.Settings.Basic

/-!
# What is to be logged

The configuration of the log, taken from the settings: a level for everything,
levels for single parts of the program, and the format of the lines.  The same
levels can be written as the text of a filter.
-/

namespace PageSession

/-- The configuration of the log. -/
structure LogConfig where
  level : Level := .info
  /-- Levels of single parts of the program, in the order of their names. -/
  modules : List (String × Level) := []
  json : Bool := false
deriving DecidableEq, Repr

namespace LogConfig

/-- The configuration that settings ask for.  A level that does not exist counts
as info, and the one of a single part is passed over. -/
def ofSettings (settings : LogSettings) : LogConfig where
  level := (Level.parse? settings.level).getD .info
  modules := settings.modules.filterMap fun (name, level) =>
    (Level.parse? level).map (name, ·)
  json := settings.json

/-- The text of the filter that lets the configured levels through. -/
def directives (config : LogConfig) : String :=
  ",".intercalate
    (config.level.name :: config.modules.map fun (name, level) => name ++ "=" ++ level.name)

end LogConfig

end PageSession
