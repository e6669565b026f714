import DocPipeline.File

/-!
# Errors

Everything that can go wrong in a processor.  Errors of collaborators are kept
as the cause of the error that reports them.
-/

namespace DocPipeline

inductive Entry where
  | runSync
  | processSync
  deriving DecidableEq, Repr

def Entry.name : Entry → String
  | .runSync => "run_sync"
  | .processSync => "process_sync"

inductive ConfigurationFault where
  | settingsNotObject (got : Value.Kind)
  | unresolved (reason : String)
  deriving DecidableEq, Repr

def ConfigurationFault.text : ConfigurationFault → String
  | .settingsNotObject got => "preset settings must be an object, got " ++ got.phrase
  | .unresolved reason => reason

mutual

/-- What a collaborator reports when it fails. -/
inductive Cause where
  | reason (text : String)
  | message (m : Message)
  | error (e : ProcessorError)

inductive ProcessorError where
  | configuration (fault : ConfigurationFault)
  | attach (index : Nat) (plugin : String) (source : Cause)
  | transform (index : Nat) (plugin : String) (source : Cause)
  | asyncUsage (entry : Entry) (index : Nat) (plugin : String)
  | multipleCompletion (index : Nat) (plugin : String)
  | abandoned (index : Nat) (plugin : String)
  | notANode (got : Node.Mismatch)
  | parse (source : Cause)
  | compile (source : Cause)

end

instance : Inhabited Cause := ⟨.reason ""⟩
instance : Inhabited ProcessorError := ⟨.notANode .null⟩

def Node.Mismatch.text : Node.Mismatch → String
  | .object => "object without a string `type`"
  | kind => kind.noun

def transformerOf (index : Nat) (plugin : String) : String :=
  "transformer of `" ++ plugin ++ "` (attacher " ++ toString index ++ ")"

mutual

def Cause.text : Cause → String
  | .reason text => text
  | .message m => m.text
  | .error e => e.text

def ProcessorError.text : ProcessorError → String
  | .configuration fault => "configuration error: " ++ fault.text
  | .attach index plugin source =>
      "plugin `" ++ plugin ++ "` (attacher " ++ toString index ++ ") failed to attach: " ++
        source.text
  | .transform index plugin source =>
      transformerOf index plugin ++ " failed: " ++ source.text
  | .asyncUsage entry index plugin =>
      "`" ++ entry.name ++ "` finished async: " ++ transformerOf index plugin ++
        " tried to suspend"
  | .multipleCompletion index plugin =>
      transformerOf index plugin ++ " completed more than once"
  | .abandoned index plugin =>
      transformerOf index plugin ++ " dropped its completion handle"
  | .notANode got => "expected a node: " ++ got.text
  | .parse source => "parse failed: " ++ source.text
  | .compile source => "compile failed: " ++ source.text

end

namespace ProcessorError

/-- The index of the attacher that the failure is put down to. -/
def index? : ProcessorError → Option Nat
  | .attach index .. | .transform index .. | .asyncUsage _ index _
  | .multipleCompletion index _ | .abandoned index _ => some index
  | _ => none

def source? : ProcessorError → Option Cause
  | .attach _ _ source | .transform _ _ source | .parse source | .compile source =>
      some source
  | _ => none

def isTransformFailure : ProcessorError → Bool
  | .transform .. => true
  | _ => false

end ProcessorError

def Node.require (v : Value) : Except ProcessorError Node :=
  (Node.ofValue v).mapError .notANode

end DocPipeline
