import DocPipeline.CommandLine.Arguments
import DocPipeline.Json.Printer
import DocPipeline.Preset.Load
import DocPipeline.Processor

/-!
# The command line

What the program does with its arguments: it assembles a processor from a
preset or from the plain-text plugins, adds the plugins asked for, processes
one document, and prints it.
-/

namespace DocPipeline.CommandLine

structure Outcome where
  code : Nat := 0
  output : String := ""
  errors : String := ""
  deriving DecidableEq, Repr

/-! ## Failures -/

inductive Failure where
  | preset (path : String) (e : Preset.Error)
  | plugin (e : Preset.Error)
  | file (path : String) (fault : ReadFault)
  | standardInput (fault : ReadFault)
  | processor (e : ProcessorError)
  /-- The processing waits for something that never comes. -/
  | stalled

def Failure.text : Failure → String
  | .preset path _ => "loading preset " ++ path
  | .plugin e => e.text
  | .file path _ => "reading " ++ path
  | .standardInput _ => "reading stdin"
  | .processor e => e.text
  | .stalled => "processing stalled"

/-! ## Assembling a processor -/

/-- What is used before the plugins asked for. -/
def basis (catalog : Catalog) (a : Arguments) : Program Files (Except Failure Pluggable) :=
  match a.preset with
  | none =>
      return .ok (.list (["text_parse", "text_stringify"].map fun name =>
        .ofPlugin (Builtin.plugin name)))
  | some path => do
      return ((← catalog.load path).map Catalog.Resolved.toPluggable).mapError (.preset path)

def use (s : Processor × World) (what : Pluggable) : Except Failure (Processor × World) :=
  match s.1.use what s.2 with
  | (.ok p, w) => .ok (p, w)
  | (.error e, _) => .error (.processor e)

def addPlugin (catalog : Catalog) (s : Processor × World) (name : String) :
    Except Failure (Processor × World) := do
  use s (.ofPlugin (← (catalog.require name).mapError .plugin))

def assemble (catalog : Catalog) (a : Arguments) (what : Pluggable) :
    Except Failure (Processor × World) := do
  a.plugins.foldlM (addPlugin catalog) (← use (Processor.new {}) what)

/-! ## Processing -/

def readInput (a : Arguments) : Program Files (Except Failure File) :=
  match a.input with
  | some path => do
      return ((← Files.readText path).map fun s => (File.ofText s).withPath path).mapError
        (.file path)
  | none => do return ((← Files.standardText).map File.ofText).mapError .standardInput

def process (book : Book) (isSync : Bool) (s : Processor × World) (file : File) :
    Except Failure File :=
  let (p, w) := s
  if isSync then (p.processSync book file w).1.mapError .processor
  else
    let (call, _, w) := p.process book file w
    match (call.drive w).1 with
    | some (.ok (.file file)) => .ok file
    | some (.ok (.document d)) => .ok d.file
    | some (.error e) => .error (.processor e)
    | none => .error .stalled

/-- Assembles the processor before anything of the input is read. -/
def processInput (catalog : Catalog) (book : Book) (a : Arguments) :
    Program Files (Except Failure File) := do
  match ← basis catalog a with
  | .error e => return .error e
  | .ok what =>
      match assemble catalog a what with
      | .error e => return .error e
      | .ok s => do
          match ← readInput a with
          | .error e => return .error e
          | .ok file => return process book a.sync s file

/-! ## Printing -/

def resultValue? (file : File) : Option Value :=
  match file.result with
  | some (.text s) => some (.string s)
  | some (.bytes bs) => some (.string (Text.ofUtf8Lossy bs))
  | some (.tree node) => some node.toValue
  | some (.value v) => some v
  | some (.foreign _) | none => none

/-- The result if there is one, and the text otherwise. -/
def render (file : File) : String :=
  match resultValue? file with
  | some v => v.indented 0
  | none => file.text

def optionalText (s : Option String) : Value := (s.map Value.string).getD .null

def report (file : File) : Value :=
  .object (.ofList [
    ("path", optionalText file.path),
    ("value", .string file.text),
    ("result", (resultValue? file).getD .null),
    ("data", .object file.data),
    ("messages", .array (file.messages.map fun m => .string m.text))])

def printed (asJson : Bool) (file : File) : Outcome where
  code := if file.hasFailed then 1 else 0
  output := (if asJson then (report file).indented 0 else render file) ++ "\n"
  errors := String.join (file.messages.map fun m => m.text ++ "\n")

def failed (e : Failure) : Outcome where
  code := 1
  errors := "Error: " ++ e.text ++ "\n"

/-! ## The program -/

def programName : String := "weft"

def version : String := programName ++ " 0.1.0\n"

def usage : String := "Usage: " ++ programName ++ " [OPTIONS] [input]\n"

def help : String :=
  "Parse, transform and stringify a document through a plugin pipeline\n\n" ++ usage ++
    "\nArguments:\n" ++
    "  [input]  Input document (reads stdin when omitted)\n" ++
    "\nOptions:\n" ++
    "  -p, --preset <preset>  Preset file (.toml, .json, .yaml)\n" ++
    "  -u, --use <use>        Add a catalog plugin by name (repeatable)\n" ++
    "      --sync             Process without suspending; async plugins fail\n" ++
    "      --json             Print the processed file as JSON\n" ++
    "      --list             List catalog plugins and exit\n" ++
    "  -v, --verbose...       Increase log verbosity\n" ++
    "  -h, --help             Print help\n" ++
    "  -V, --version          Print version\n"

def stopped : Stop → Outcome
  | .misuse => { code := 2, errors := usage }
  | .version => { output := version }
  | .help => { output := help }

def listing (catalog : Catalog) : Outcome where
  output := String.join (catalog.names.map (· ++ "\n"))

def run (catalog : Catalog) (book : Book) (args : List String) : Program Files Outcome :=
  match Arguments.read args with
  | .error stop => return stopped stop
  | .ok a =>
      if a.list then return listing catalog
      else do
        match ← processInput catalog book a with
        | .error e => return failed e
        | .ok file => return printed a.json file

end DocPipeline.CommandLine
