/-!
# Command-line arguments

Arguments are taken one after the other, so the first that is out of order
decides: misuse, or a request for the version or for help.  After a double dash
every argument is an input.
-/

namespace DocPipeline.CommandLine

structure Arguments where
  input : Option String := none
  preset : Option String := none
  plugins : List String := []
  sync : Bool := false
  json : Bool := false
  list : Bool := false
  verbosity : Nat := 0
  deriving DecidableEq, Repr

/-- Why arguments ask for no processing. -/
inductive Stop where
  | misuse
  | version
  | help
  deriving DecidableEq, Repr

inductive Flag where
  | sync
  | json
  | list
  | verbose
  | version
  | help
  deriving DecidableEq, Repr

inductive Setting where
  | preset
  | plugin
  deriving DecidableEq, Repr

abbrev Choice := Flag ⊕ Setting

def longChoice? : String → Option Choice
  | "sync" => some (.inl .sync)
  | "json" => some (.inl .json)
  | "list" => some (.inl .list)
  | "verbose" => some (.inl .verbose)
  | "version" => some (.inl .version)
  | "help" => some (.inl .help)
  | "preset" => some (.inr .preset)
  | "use" => some (.inr .plugin)
  | _ => none

def shortChoice? : Char → Option Choice
  | 'v' => some (.inl .verbose)
  | 'V' => some (.inl .version)
  | 'h' => some (.inl .help)
  | 'p' => some (.inr .preset)
  | 'u' => some (.inr .plugin)
  | _ => none

namespace Arguments

/-- Raises a flag; only verbosity may be raised again. -/
def raise (a : Arguments) : Flag → Except Stop Arguments
  | .sync => if a.sync then .error .misuse else .ok { a with sync := true }
  | .json => if a.json then .error .misuse else .ok { a with json := true }
  | .list => if a.list then .error .misuse else .ok { a with list := true }
  | .verbose => .ok { a with verbosity := a.verbosity + 1 }
  | .version => .error .version
  | .help => .error .help

/-- Takes a path that may be given once and may not be empty. -/
def path (old : Option String) (new : String) : Except Stop (Option String) :=
  if old.isSome || new == "" then .error .misuse else .ok (some new)

def assign (a : Arguments) (s : Setting) (value : String) : Except Stop Arguments :=
  match s with
  | .preset => do return { a with preset := ← path a.preset value }
  | .plugin => .ok { a with plugins := a.plugins ++ [value] }

def addInput (a : Arguments) (value : String) : Except Stop Arguments := do
  return { a with input := ← path a.input value }

/-- The value attached to a short option, if any; an equals sign may come before it. -/
def attached? : List Char → Option String
  | [] => none
  | '=' :: value => some (String.ofList value)
  | value => some (String.ofList value)

/-- Takes short options; one that takes a value may be left without it at the end. -/
def takeShort (a : Arguments) : List Char → Except Stop (Arguments × Option Setting)
  | [] => .ok (a, none)
  | c :: cs =>
      match shortChoice? c with
      | none => .error .misuse
      | some (.inl flag) => do (← a.raise flag).takeShort cs
      | some (.inr setting) =>
          match attached? cs with
          | none => .ok (a, some setting)
          | some value => do return (← a.assign setting value, none)

/-- Takes a long option, with its value after an equals sign or without. -/
def takeLong (a : Arguments) (cs : List Char) : Except Stop (Arguments × Option Setting) :=
  let name := String.ofList (cs.takeWhile (· ≠ '='))
  match longChoice? name, cs.dropWhile (· ≠ '=') with
  | some (.inl flag), [] => do return (← a.raise flag, none)
  | some (.inr setting), [] => .ok (a, some setting)
  | some (.inr setting), _ :: value => do
      return (← a.assign setting (String.ofList value), none)
  | _, _ => .error .misuse

/-- Whether an argument is an option or a double dash, and so no value. -/
def isOption (arg : String) : Bool :=
  match arg.toList with
  | '-' :: _ :: _ => true
  | _ => false

def takeOption (a : Arguments) (arg : String) : Except Stop (Arguments × Option Setting) :=
  match arg.toList with
  | '-' :: '-' :: cs => a.takeLong cs
  | cs => a.takeShort (cs.drop 1)

/-- Takes all arguments, given an option that still needs its value. -/
def take (a : Arguments) : (open_ : Option Setting) → List String → Except Stop Arguments
  | none, [] => .ok a
  | some _, [] => .error .misuse
  | some setting, value :: args =>
      if isOption value then .error .misuse
      else do (← a.assign setting value).take none args
  | none, "--" :: args => args.foldlM addInput a
  | none, arg :: args => do
      if isOption arg then
        let (a, setting) ← a.takeOption arg
        a.take setting args
      else (← a.addInput arg).take none args

def read (args : List String) : Except Stop Arguments := take {} none args

end Arguments

end DocPipeline.CommandLine
