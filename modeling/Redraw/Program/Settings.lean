import Redraw.Settings

/-
  Settings of the program: how long it runs, where it logs,
  and what it passes on to the drawing thread.

  Key definitions include:
    * `ProgramSettings`, `ProgramSettings.load`
    * `ProgramSettings.drawing`: settings of the thread
-/

namespace Redraw

/- Why the program's settings cannot be used. -/
inductive SettingsError
  | unreadable
  | malformed
  | invalidRender
  deriving DecidableEq, Repr

/- What the program says about a file of settings. -/
def SettingsError.message
    (file : String) :
    SettingsError → String
  | unreadable => "reading " ++ file
  | malformed => "parsing " ++ file
  | invalidRender => "invalid [render] table"

/-
  Settings of the program: how many seconds it runs, its log,
  and the table for the drawing thread as it was given.
-/
structure ProgramSettings where
  seconds : Nat := 10
  logFile : List Char := "ttx.log".toList
  logLevel : List Char := "info".toList
  render : Option Toml.Entries := none

namespace ProgramSettings

/-
  The table for the drawing thread.  A date counts as a table
  without known keys.
-/
def renderTable? : Toml.Value → Option (Option Toml.Entries)
  | .table _ es => some (some es)
  | .moment _ => some (some [])
  | _ => none

/- Program settings from a table. -/
def ofEntries? (es : Toml.Entries) : Option ProgramSettings := do
  let seconds ←
    es.get? "duration_secs".toList 10 Toml.Value.natural?
  let logFile ←
    es.get? "log_file".toList "ttx.log".toList Toml.Value.text?
  let logLevel ←
    es.get? "log_level".toList "info".toList Toml.Value.text?
  let render ← es.get? "render".toList none renderTable?
  return ⟨seconds, logFile, logLevel, render⟩

/- Program settings from a document. -/
def read
    (document : List Char) :
    Except SettingsError ProgramSettings :=
  match (Toml.read document).bind ofEntries? with
  | some s => .ok s
  | none => .error .malformed

/-
  Program settings from a file that may be missing.  Without a
  file all settings are defaults.
-/
def load :
    Option (Option (List Char)) →
    Except SettingsError ProgramSettings
  | none => .ok {}
  | some none => .error .unreadable
  | some (some document) => read document

/-
  Settings of the drawing thread.  What the terminal can do is
  detected unless the settings tell.
-/
def drawing
    (s : ProgramSettings)
    (detected : Capabilities) :
    Except SettingsError Settings :=
  match s.render with
  | none => .ok { capabilities := detected }
  | some es =>
      match Settings.ofEntries? es with
      | none => .error .invalidRender
      | some drawing =>
          if (es.lookup Settings.capabilitiesKey).isSome then
            .ok drawing
          else .ok (drawing.withCapabilities detected)

end ProgramSettings

end Redraw
