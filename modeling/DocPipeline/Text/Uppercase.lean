import DocPipeline.Text.Uppercase.Table

/-!
# Uppercase

The full mapping: a character may become several, and no character's mapping
depends on its neighbours.
-/

namespace DocPipeline.Text

def CaseRun.covers (run : CaseRun) (code : Nat) : Bool :=
  run.first ≤ code && code ≤ run.last && (code - run.first) % run.step == 0

def upperChar (c : Char) : List Char :=
  match upperExpansions.lookup c.toNat with
  | some codes => codes.map Char.ofNat
  | none =>
      match upperRuns.find? (·.covers c.toNat) with
      | some run => [Char.ofNat (run.upper + (c.toNat - run.first))]
      | none => [c]

def upper (s : String) : String := String.ofList (s.toList.flatMap upperChar)

end DocPipeline.Text
