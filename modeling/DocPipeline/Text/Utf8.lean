/-!
# UTF-8

Decoding splits bytes into characters and faults.  A fault is a longest
beginning of a well-formed character that the next byte does not continue, or
a single byte that begins no character.
-/

namespace DocPipeline.Text

/-- What a first byte allows: how many bytes follow, and the range of the next one. -/
structure Lead where
  following : Nat
  low : Nat
  high : Nat
  bits : Nat

def lead? (b : Nat) : Option Lead :=
  if b < 0x80 then some ⟨0, 0, 0, b⟩
  else if 0xC2 ≤ b ∧ b ≤ 0xDF then some ⟨1, 0x80, 0xBF, b - 0xC0⟩
  else if b = 0xE0 then some ⟨2, 0xA0, 0xBF, 0⟩
  else if b = 0xED then some ⟨2, 0x80, 0x9F, 0xD⟩
  else if 0xE1 ≤ b ∧ b ≤ 0xEF then some ⟨2, 0x80, 0xBF, b - 0xE0⟩
  else if b = 0xF0 then some ⟨3, 0x90, 0xBF, 0⟩
  else if 0xF1 ≤ b ∧ b ≤ 0xF3 then some ⟨3, 0x80, 0xBF, b - 0xF0⟩
  else if b = 0xF4 then some ⟨3, 0x80, 0x8F, 4⟩
  else none

/--
Decodes with a character under way: `need` more bytes, the next one between
`low` and `high`.  Each `none` is one fault.
-/
def decodeFrom : (need low high acc : Nat) → List UInt8 → List (Option Char)
  | 0, _, _, _, [] => []
  | _ + 1, _, _, _, [] => [none]
  | need, low, high, acc, byte :: bytes =>
      let b := byte.toNat
      if need ≠ 0 ∧ low ≤ b ∧ b ≤ high then
        let acc := acc * 64 + (b - 0x80)
        if need = 1 then some (Char.ofNat acc) :: decodeFrom 0 0 0 0 bytes
        else decodeFrom (need - 1) 0x80 0xBF acc bytes
      else
        let fault := if need = 0 then [] else [none]
        match lead? b with
        | none => fault ++ none :: decodeFrom 0 0 0 0 bytes
        | some ⟨0, _, _, bits⟩ =>
            fault ++ some (Char.ofNat bits) :: decodeFrom 0 0 0 0 bytes
        | some ⟨following, low, high, bits⟩ =>
            fault ++ decodeFrom following low high bits bytes

def decodeUtf8 (bytes : List UInt8) : List (Option Char) := decodeFrom 0 0 0 0 bytes

def ofUtf8? (bytes : List UInt8) : Option String :=
  ((decodeUtf8 bytes).mapM id).map String.ofList

/-- The text with the replacement character for every fault. -/
def ofUtf8Lossy (bytes : List UInt8) : String :=
  String.ofList ((decodeUtf8 bytes).map (·.getD '\uFFFD'))

def toUtf8 (s : String) : List UInt8 := s.toUTF8.toList

end DocPipeline.Text
