import PageSession.Json.Decode
import PageSession.Notification.Basic
import PageSession.Session.File

/-!
# Why settings are refused
-/

namespace PageSession

/-- Why settings cannot be loaded. -/
inductive SettingsError where
  | file (error : FileError)
  /-- The file is no JSON text. -/
  | form (defect : Json.Defect)
  /-- A value in the file has the wrong type. -/
  | mismatch (mismatch : Json.Mismatch)
  /-- The settings as a whole cannot be used. -/
  | invalid (reason : String)

namespace SettingsError

/-- What the error is about, without the text that introduces it. -/
def reason [Json.Complaints] : SettingsError → String
  | .file error => error.message
  | .form defect => Json.Complaints.form defect
  | .mismatch found => found.message
  | .invalid reason => reason

def message [Json.Complaints] (error : SettingsError) : String :=
  match error with
  | .file _ => "failed to read settings file: " ++ error.reason
  | .form _ | .mismatch _ => "failed to parse settings JSON: " ++ error.reason
  | .invalid _ => "invalid settings value: " ++ error.reason

end SettingsError

end PageSession
