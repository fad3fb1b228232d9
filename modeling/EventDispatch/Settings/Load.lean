import EventDispatch.Settings.Document

/-!
# Reading settings

Settings are read from a text or from a file. White space alone, and a file that is not there, give
the defaults. What a document states has to pass the rules for settings.
-/

set_option autoImplicit false

namespace EventDispatch.Settings

/-- Why settings could not be read: the document is at fault, the settings are refused, or the file
cannot be read as text. -/
inductive LoadError where
  | document (fault : Yaml.Fault)
  | invalid (error : Invalid)
  | file
  deriving DecidableEq, Repr, Inhabited

/-- The settings that a text states. -/
def parse (text : String) : Except LoadError Settings :=
  let chars := text.toList
  if chars.all Text.isBlank then .ok {}
  else
    match (Yaml.Document.parse chars).bind ofDocument with
    | .error fault => .error (.document fault)
    | .ok settings =>
      match settings.validate with
      | .error e => .error (.invalid e)
      | .ok () => .ok settings

/-- What is found under the path of a settings file. -/
inductive Source where
  | absent
  | directory
  | file (content : ByteArray)

/-- Reads the settings of a file, and gives the log lines of doing so. -/
def load (path : String) (source : Source) : Except LoadError Settings × List Line :=
  match source with
  | .absent =>
    (.ok {},
      [⟨.debug, "No observer configuration file, using defaults", [("path", .text path)]⟩])
  | .directory => (.error .file, [])
  | .file content =>
    match String.fromUTF8? content with
    | none => (.error .file, [])
    | some text =>
      match parse text with
      | .error e => (.error e, [])
      | .ok settings =>
        (.ok settings,
          [⟨.debug, "Loaded observer configuration",
            [("path", .text path), ("config", .text settings.detail)]⟩])

end EventDispatch.Settings
