import CdcSerial.Json.Value

/-!
# Writing JSON

Values are written without blanks, or laid out with two blanks for each level. In strings only the
quote, the backslash and the control characters below U+0020 are escaped.
-/

namespace CdcSerial

namespace Json

/-- The four digits of an escaped unit. -/
def unitEscape (code : Nat) : List Char :=
  '\\' :: 'u' :: Numeral.writePadded 16 4 code

/-- A character inside a string. -/
def escapeChar (character : Char) : List Char :=
  if character = '"' then ['\\', '"']
  else if character = '\\' then ['\\', '\\']
  else if character = '\x08' then ['\\', 'b']
  else if character = '\t' then ['\\', 't']
  else if character = '\n' then ['\\', 'n']
  else if character = '\x0c' then ['\\', 'f']
  else if character = '\r' then ['\\', 'r']
  else if character.toNat < 0x20 then unitEscape character.toNat
  else [character]

/-- A piece of a string as it stands between the quotes. -/
def Piece.text : Piece → List Char
  | .plain character => escapeChar character
  | .unit code => unitEscape code

/-- A string with its quotes. -/
def quoted (pieces : List Piece) : List Char :=
  '"' :: (pieces.flatMap Piece.text ++ ['"'])

namespace Value

mutual

/-- The text of a value without blanks. -/
def compact : Value → List Char
  | .null => "null".toList
  | .boolean true => "true".toList
  | .boolean false => "false".toList
  | .number literal => literal.text
  | .string pieces => quoted pieces
  | .array items => '[' :: (compactItems items ++ [']'])
  | .object members => '{' :: (compactMembers members ++ ['}'])

/-- The items of an array, divided by commas. -/
def compactItems : List Value → List Char
  | [] => []
  | [item] => compact item
  | item :: rest => compact item ++ ',' :: compactItems rest

/-- The members of an object, divided by commas. -/
def compactMembers : List (List Piece × Value) → List Char
  | [] => []
  | [(key, value)] => quoted key ++ ':' :: compact value
  | (key, value) :: rest => quoted key ++ ':' :: compact value ++ ',' :: compactMembers rest

end

/-- The start of a line at the given level. -/
def lineStart (level : Nat) : List Char :=
  '\n' :: List.replicate (2 * level) ' '

mutual

/-- The text of a value laid out over lines, inside so many levels. -/
def laidOut (level : Nat) : Value → List Char
  | .array (item :: rest) =>
    '[' :: (laidOutItems (level + 1) (item :: rest) ++ lineStart level ++ [']'])
  | .object (member :: rest) =>
    '{' :: (laidOutMembers (level + 1) (member :: rest) ++ lineStart level ++ ['}'])
  | .array [] => ['[', ']']
  | .object [] => ['{', '}']
  | .null => "null".toList
  | .boolean true => "true".toList
  | .boolean false => "false".toList
  | .number literal => literal.text
  | .string pieces => quoted pieces

/-- The items of an array, one on each line. -/
def laidOutItems (level : Nat) : List Value → List Char
  | [] => []
  | [item] => lineStart level ++ laidOut level item
  | item :: rest => lineStart level ++ laidOut level item ++ ',' :: laidOutItems level rest

/-- The members of an object, one on each line. -/
def laidOutMembers (level : Nat) : List (List Piece × Value) → List Char
  | [] => []
  | [(key, value)] => lineStart level ++ quoted key ++ ':' :: ' ' :: laidOut level value
  | (key, value) :: rest =>
    lineStart level ++ quoted key ++ ':' :: ' ' :: laidOut level value
      ++ ',' :: laidOutMembers level rest

end

/-- The text of a value without blanks. -/
def toText (value : Value) : String := String.ofList value.compact

/-- The text of a value laid out over lines. -/
def toLines (value : Value) : String := String.ofList (value.laidOut 0)

end Value

end Json

end CdcSerial
