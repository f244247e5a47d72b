import CdcSerial.Json.Value

/-!
# Reading JSON

The reader takes the JSON grammar and nothing else: blanks around values and marks, no comments, no
trailing commas, no leading zeros. It only looks at the spelling, so a number of any size and an
escaped lone surrogate are fine as long as nobody asks what they denote. Values nest no deeper than
the text is long, and that length is the fuel of the reader.
-/

namespace CdcSerial

namespace Json

/-- A blank between values and marks. -/
def isBlank (character : Char) : Bool :=
  character = ' ' || character = '\t' || character = '\n' || character = '\r'

/-- The text without the blanks that start it. -/
def skipBlanks (text : List Char) : List Char := text.dropWhile isBlank

/-- An ASCII decimal digit. -/
def isDigit (character : Char) : Bool := (Numeral.digitValue? 10 character).isSome

/-- A run of digits and what follows it, if there is at least one digit. -/
def readDigits? (text : List Char) : Option (List Char × List Char) :=
  match text.takeWhile isDigit with
  | [] => none
  | digits => some (digits, text.dropWhile isDigit)

/-- The digits of a whole number: a zero alone, or digits of which the first is no zero. -/
def readWhole? (text : List Char) : Option (List Char × List Char) := do
  let (digits, rest) ← readDigits? text
  match digits with
  | '0' :: _ :: _ => none
  | _ => some (digits, rest)

/-- The digits behind a point, if a point follows. -/
def readFraction? : List Char → Option (Option (List Char) × List Char)
  | '.' :: text => (readDigits? text).map fun (digits, rest) => (some digits, rest)
  | text => some (none, text)

/-- The sign and digits of a power of ten, if its mark follows. -/
def readPower? : List Char → Option (Option (Bool × List Char) × List Char)
  | mark :: text =>
    if mark = 'e' ∨ mark = 'E' then
      let (negative, unsigned) := match text with
        | '+' :: rest => (false, rest)
        | '-' :: rest => (true, rest)
        | rest => (false, rest)
      (readDigits? unsigned).map fun (digits, rest) => (some (negative, digits), rest)
    else some (none, mark :: text)
  | [] => some (none, [])

/-- A number literal. -/
def readNumber? (text : List Char) : Option (Number × List Char) := do
  let (negative, unsigned) := match text with
    | '-' :: rest => (true, rest)
    | rest => (false, rest)
  let (whole, afterWhole) ← readWhole? unsigned
  let (fraction, afterFraction) ← readFraction? afterWhole
  let (power, rest) ← readPower? afterFraction
  return (⟨negative, whole, fraction, power⟩, rest)

/-- The character that a letter behind a backslash stands for. -/
def simpleEscape? (letter : Char) : Option Char :=
  if letter = '"' then some '"'
  else if letter = '\\' then some '\\'
  else if letter = '/' then some '/'
  else if letter = 'b' then some '\x08'
  else if letter = 'f' then some '\x0c'
  else if letter = 'n' then some '\n'
  else if letter = 'r' then some '\r'
  else if letter = 't' then some '\t'
  else none

/-- The rest of a string behind its opening quote. -/
def readPieces? : List Char → Option (List Piece × List Char)
  | [] => none
  | '"' :: rest => some ([], rest)
  | '\\' :: 'u' :: first :: second :: third :: fourth :: rest => do
    let code ← Numeral.readDigits? 16 [first, second, third, fourth]
    let (pieces, rest) ← readPieces? rest
    return (.unit code :: pieces, rest)
  | '\\' :: letter :: rest => do
    let character ← simpleEscape? letter
    let (pieces, rest) ← readPieces? rest
    return (.plain character :: pieces, rest)
  | character :: rest =>
    if character.toNat < 0x20 ∨ character = '\\' then none
    else do
      let (pieces, rest) ← readPieces? rest
      return (.plain character :: pieces, rest)

/-- The text behind a given word, if it starts with that word. -/
def expect? : List Char → List Char → Option (List Char)
  | [], text => some text
  | _ :: _, [] => none
  | wanted :: word, character :: text => if wanted = character then expect? word text else none

mutual

/-- A value at the start of a text that has no blank in front of it. -/
def readValue? : Nat → List Char → Option (Value × List Char)
  | 0, _ => none
  | _, [] => none
  | fuel + 1, first :: rest =>
    if first = '"' then
      (readPieces? rest).map fun (pieces, rest) => (.string pieces, rest)
    else if first = '[' then
      match skipBlanks rest with
      | ']' :: rest => some (.array [], rest)
      | text => (readItems? fuel text).map fun (items, rest) => (.array items, rest)
    else if first = '{' then
      match skipBlanks rest with
      | '}' :: rest => some (.object [], rest)
      | text => (readMembers? fuel text).map fun (members, rest) => (.object members, rest)
    else if first = 'n' then (expect? "ull".toList rest).map fun rest => (.null, rest)
    else if first = 't' then (expect? "rue".toList rest).map fun rest => (.boolean true, rest)
    else if first = 'f' then (expect? "alse".toList rest).map fun rest => (.boolean false, rest)
    else (readNumber? (first :: rest)).map fun (literal, rest) => (.number literal, rest)

/-- One or more items up to the end of their array. -/
def readItems? : Nat → List Char → Option (List Value × List Char)
  | 0, _ => none
  | fuel + 1, text => do
    let (item, rest) ← readValue? fuel text
    match skipBlanks rest with
    | ',' :: rest =>
      let (items, rest) ← readItems? fuel (skipBlanks rest)
      return (item :: items, rest)
    | ']' :: rest => return ([item], rest)
    | _ => none

/-- One or more members up to the end of their object. -/
def readMembers? : Nat → List Char → Option (List (List Piece × Value) × List Char)
  | 0, _ => none
  | fuel + 1, text => do
    let afterQuote ← expect? ['"'] text
    let (key, rest) ← readPieces? afterQuote
    let afterColon ← expect? [':'] (skipBlanks rest)
    let (value, rest) ← readValue? fuel (skipBlanks afterColon)
    match skipBlanks rest with
    | ',' :: rest =>
      let (members, rest) ← readMembers? fuel (skipBlanks rest)
      return ((key, value) :: members, rest)
    | '}' :: rest => return ([(key, value)], rest)
    | _ => none

end

/-- The value that a whole text spells, with blanks around it. -/
def parse? (text : String) : Option Value := do
  let characters := text.toList
  let (value, rest) ← readValue? (2 * characters.length + 1) (skipBlanks characters)
  match skipBlanks rest with
  | [] => some value
  | _ => none

end Json

end CdcSerial
