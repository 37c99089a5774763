import PageSession.Log.Output
import PageSession.Page.Host
import PageSession.Settings.Error
import PageSession.Text.Split
import PageSession.Text.Unsigned

/-!
# How a failure is shown

A failure of the program is what was being done, or what went wrong at once, and
the chain of its causes.  Causes are numbered if there are several.
-/

namespace PageSession

/-- Why the program has ended. -/
structure Failure where
  headline : String
  causes : List String := []
deriving DecidableEq, Repr

namespace Failure

/-- A text whose first line begins with a head and the others with blanks. -/
def indented (head indent text : String) : List String :=
  match Text.split '\n' text.toList with
  | [] => []
  | first :: others =>
      (head ++ String.ofList first) :: others.map fun line => indent ++ String.ofList line

/-- A numbered cause. -/
def numbered (cause : String) (place : Nat) : List String :=
  indented ("    " ++ Text.decimal place ++ ": ") "       " cause

/-- The lines of the causes. -/
def causeLines : List String → List String
  | [] => []
  | [cause] => ["", "Caused by:"] ++ indented "    " "    " cause
  | causes => ["", "Caused by:"] ++ causes.zipIdx.flatMap fun (cause, place) =>
      numbered cause place

/-- The lines that tell the user. -/
def lines (failure : Failure) : List String :=
  indented "Error: " "" failure.headline ++ causeLines failure.causes

end Failure

namespace SettingsError

/-- The error, and what it wraps. -/
def causes [Json.Complaints] (error : SettingsError) : List String :=
  match error with
  | .invalid _ => [error.message]
  | .file _ | .form _ | .mismatch _ => [error.message, error.reason]

end SettingsError

namespace FilterError

/-- The error, and what it wraps. -/
def causes (error : FilterError) : List String :=
  match error with
  | .form => [error.message]
  | .level => [error.message, error.message]
  | .pattern => [error.message, patternReason]

end FilterError

namespace LogError

/-- The error, and what it wraps. -/
def causes (error : LogError) : List String :=
  match error with
  | .filter wrapped => error.message :: wrapped.causes
  | .alreadySet => [error.message]

end LogError

namespace Failure

def loading [Json.Complaints] (error : SettingsError) : Failure :=
  { headline := "Failed to load settings", causes := error.causes }

def invalid [Json.Complaints] (error : SettingsError) : Failure :=
  { headline := "Invalid settings", causes := error.causes }

def logging (error : LogError) : Failure :=
  { headline := "Failed to initialize logging", causes := error.causes }

def origin (error : OriginError) : Failure :=
  { headline := error.message }

end Failure

end PageSession
