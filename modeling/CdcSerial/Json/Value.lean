import CdcSerial.Text.Numeral

/-!
# JSON values

A JSON value as its text spells it: numbers are kept as literals and strings as the pieces between
their quotes, so that a value that nobody asks for needs no meaning. What a number or a string
denotes is decided by whoever reads it.
-/

namespace CdcSerial

namespace Json

/-- A number literal: digits, and the digits behind a point and of a power of ten where present. -/
structure Number where
  negative : Bool
  whole : List Char
  fraction : Option (List Char)
  power : Option (Bool × List Char)
deriving DecidableEq

namespace Number

/-- The literal of a whole number. -/
def ofNat (number : Nat) : Number := ⟨false, Numeral.write 10 number, none, none⟩

/-- The literal with a point between two runs of digits. -/
def ofParts (negative : Bool) (whole fraction : List Char) : Number :=
  ⟨negative, whole, some fraction, none⟩

/-- The text of a literal. -/
def text (number : Number) : List Char :=
  (if number.negative then ['-'] else []) ++ number.whole
    ++ (match number.fraction with
      | some digits => '.' :: digits
      | none => [])
    ++ (match number.power with
      | some (true, digits) => 'e' :: '-' :: digits
      | some (false, digits) => 'e' :: digits
      | none => [])

/-- The whole number that a literal without sign, fraction and power denotes, up to a limit. -/
def toNat? (limit : Nat) (number : Number) : Option Nat :=
  match number with
  | ⟨false, whole, none, none⟩ => (Numeral.readDigits? 10 whole).filter (· ≤ limit)
  | _ => none

end Number

/-- A piece of a string: a character, or one escaped sixteen-bit unit. -/
inductive Piece where
  | plain (character : Char)
  | unit (code : Nat)
deriving DecidableEq

namespace Piece

/-- Whether a unit opens a surrogate pair. -/
def isHighSurrogate (code : Nat) : Bool := decide (0xD800 ≤ code ∧ code ≤ 0xDBFF)

/-- Whether a unit closes a surrogate pair. -/
def isLowSurrogate (code : Nat) : Bool := decide (0xDC00 ≤ code ∧ code ≤ 0xDFFF)

/-- The characters that pieces denote; a surrogate outside a pair denotes none. -/
def characters? : List Piece → Option (List Char)
  | [] => some []
  | .plain character :: rest => (characters? rest).map (character :: ·)
  | .unit high :: .unit low :: rest =>
    if isHighSurrogate high then
      if isLowSurrogate low then
        (characters? rest).map
          (Char.ofNat (0x10000 + (high - 0xD800) * 0x400 + (low - 0xDC00)) :: ·)
      else none
    else if isLowSurrogate high then none
    else (characters? (.unit low :: rest)).map (Char.ofNat high :: ·)
  | .unit code :: rest =>
    if isHighSurrogate code || isLowSurrogate code then none
    else (characters? rest).map (Char.ofNat code :: ·)

end Piece

/-- A JSON value. The members of an object keep their order, and a key may occur more than once. -/
inductive Value where
  | null
  | boolean (value : Bool)
  | number (literal : Number)
  | string (pieces : List Piece)
  | array (items : List Value)
  | object (members : List (List Piece × Value))

namespace Value

/-- The string value of a text. -/
def ofString (text : String) : Value := .string (text.toList.map .plain)

/-- The number value of a whole number. -/
def ofNat (number : Nat) : Value := .number (.ofNat number)

/-- An object from its keys and values. -/
def ofMembers (members : List (String × Value)) : Value :=
  .object (members.map fun (key, value) => (key.toList.map .plain, value))

end Value

end Json

end CdcSerial
