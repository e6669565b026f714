import DocPipeline.Error
import DocPipeline.Files

/-!
# Preset formats and errors

The format of a preset document is told from the extension of its path.
-/

namespace DocPipeline.Preset

inductive Format where
  | toml
  | json
  | yaml
  deriving DecidableEq, Repr

inductive Error where
  | unreadable (path : String) (fault : ReadFault)
  | invalid (format : Format)
  | unsupportedFormat (path : String)
  | unknownPlugin (name : String)
  | invalidSettings (got : Value.Kind)
  deriving DecidableEq, Repr

/-- What the error has to report; an invalid document has its format only. -/
def Error.text : Error → String
  | .unreadable path fault => "cannot read preset " ++ path ++ ": " ++ fault.text
  | .invalid .toml => "invalid TOML preset"
  | .invalid .json => "invalid JSON preset"
  | .invalid .yaml => "invalid YAML preset"
  | .unsupportedFormat path => "unsupported preset format: " ++ path
  | .unknownPlugin name => "unknown plugin `" ++ name ++ "`"
  | .invalidSettings got => "preset settings must be a table, got " ++ got.phrase

def Error.toProcessorError (e : Error) : ProcessorError :=
  .configuration (.unresolved e.text)

/-- Lower case of the letters `A` to `Z`; other characters stay. -/
def asciiLower (s : String) : String := String.ofList (s.toList.map Char.toLower)

def Format.ofPath (path : String) : Except Error Format :=
  match asciiLower ((Path.extension? path).getD "") with
  | "toml" => .ok .toml
  | "json" => .ok .json
  | "yaml" => .ok .yaml
  | "yml" => .ok .yaml
  | _ => .error (.unsupportedFormat path)

end DocPipeline.Preset
