import CdcSerial.Json.Magnitude
import CdcSerial.Json.Reader
import CdcSerial.Json.Writer
import CdcSerial.Line.Coding

/-!
# Options

The loosely typed options with which a port is opened, and partial updates of the control lines.
Both are read from JSON objects, whose members come in any order, or from JSON arrays that hold the
fields in order. A missing field takes its default, an unknown member is ignored, and a field given
twice is an error.
-/

namespace CdcSerial

/-- Options for opening a port: stop bits are a number and parity is a name. -/
structure OpenOptions where
  baudRate : UInt32 := 9600
  dataBits : UInt8 := 8
  stopBits : Double := ⟨0x3FF0000000000000⟩
  parity : String := "none"
deriving DecidableEq, Inhabited

namespace OpenOptions

/-- The numbers of data bits that a line can have. -/
def validDataBits : List UInt8 := [5, 6, 7, 8]

/-- The numbers of stop bits that a line can have: 1, 1.5 and 2. -/
def validStopBits : List Double :=
  [⟨0x3FF0000000000000⟩, ⟨0x3FF8000000000000⟩, ⟨0x4000000000000000⟩]

/-- Refuse options that no line can have: data bits first, then stop bits, then parity. -/
def validate (options : OpenOptions) : Except Error Unit :=
  if !validDataBits.contains options.dataBits then
    .error (.invalidConfig (.dataBits options.dataBits))
  else if !validStopBits.any (·.same options.stopBits) then
    .error (.invalidConfig (.stopBits options.stopBits))
  else if (Parity.ofName? options.parity).isNone then
    .error (.invalidConfig (.parity options.parity))
  else .ok ()

/-- The line configuration nearest to the options. -/
def lineConfig (options : OpenOptions) : LineConfig where
  baudRate := options.baudRate
  dataBits := options.dataBits
  stopBits := .ofRequested options.stopBits
  parity := .ofName options.parity

end OpenOptions

/-- A partial update: an absent field leaves its signal alone. -/
structure SetOptions where
  brk : Option Bool := none
  dtr : Option Bool := none
  rts : Option Bool := none
deriving DecidableEq, Inhabited

/-- Whether an update supplies nothing. -/
def SetOptions.isEmpty (options : SetOptions) : Bool :=
  options.brk.isNone && options.dtr.isNone && options.rts.isNone

namespace Json

/-- The text of a string value. -/
def Value.string? : Value → Option String
  | .string pieces => (Piece.characters? pieces).map String.ofList
  | _ => none

/-- The whole number of a number value, up to a limit. -/
def Value.nat? (limit : Nat) : Value → Option Nat
  | .number literal => literal.toNat? limit
  | _ => none

/-- The double of a number value. -/
def Value.double? : Value → Option Double
  | .number literal => literal.toDouble?
  | _ => none

/-- The truth value of a boolean, or nothing for null. -/
def Value.optionalBoolean? : Value → Option (Option Bool)
  | .boolean value => some (some value)
  | .null => some none
  | _ => none

/-- A field of a record: its key, and how a value changes the record. -/
structure Field (Record : Type) where
  key : String
  set? : Value → Record → Option Record

/--
Fill a record from the members of an object. `fields` are those that may still come, and `used`
those that have come already.
-/
def fillMembers? {Record : Type} (fields : List (Field Record)) (used : List String)
    (record : Record) : List (List Piece × Value) → Option Record
  | [] => some record
  | (pieces, value) :: rest => do
    let key ← (Piece.characters? pieces).map String.ofList
    match fields.find? (·.key == key) with
    | none => fillMembers? fields used record rest
    | some field =>
      if used.contains key then none
      else
        let changed ← field.set? value record
        fillMembers? fields (key :: used) changed rest

/-- Fill a record from the items of an array, which stand for the fields in order. -/
def fillItems? {Record : Type} (record : Record) :
    List (Field Record) → List Value → Option Record
  | _, [] => some record
  | [], _ :: _ => none
  | field :: fields, item :: items => do
    let changed ← field.set? item record
    fillItems? changed fields items

/-- A record from an object or an array, starting from its defaults. -/
def fill? {Record : Type} (fields : List (Field Record)) (defaults : Record) :
    Value → Option Record
  | .object members => fillMembers? fields [] defaults members
  | .array items => fillItems? defaults fields items
  | _ => none

end Json

namespace OpenOptions

/-- The fields of the options, in order. -/
def jsonFields : List (Json.Field OpenOptions) :=
  [ ⟨"baudRate", fun value options =>
      (value.nat? 4294967295).map fun baudRate =>
        { options with baudRate := UInt32.ofNat baudRate }⟩,
    ⟨"dataBits", fun value options =>
      (value.nat? 255).map fun dataBits => { options with dataBits := UInt8.ofNat dataBits }⟩,
    ⟨"stopBits", fun value options =>
      value.double?.map fun stopBits => { options with stopBits }⟩,
    ⟨"parity", fun value options => value.string?.map fun parity => { options with parity }⟩ ]

/-- Options from a JSON value. -/
def ofJson? (value : Json.Value) : Option OpenOptions := Json.fill? jsonFields {} value

/-- Options from a JSON text. -/
def ofText? (text : String) : Option OpenOptions := (Json.parse? text).bind ofJson?

/--
The literal of a number of stop bits with at least one place behind the point. Sizes from 0.001 up
to below `10 ^ 15`, and zero, have one.
-/
def stopBitsLiteral? (value : Double) : Option Json.Number :=
  if value.isZero then some (.ofParts value.negative ['0'] ['0'])
  else if !value.isFinite then none
  else if value.size.lt ⟨1, 1000⟩ || Ratio.le ⟨1000000000000000, 1⟩ value.size then none
  else
    let decimal := value.shortest .even
    if 0 ≤ decimal.power then
      let whole := Numeral.write 10 (decimal.digits * Nat.pow 10 decimal.power.toNat)
      some (.ofParts value.negative whole ['0'])
    else
      let places := (-decimal.power).toNat
      some (.ofParts value.negative (Numeral.write 10 (decimal.digits / Nat.pow 10 places))
        (Numeral.writePadded 10 places (decimal.digits % Nat.pow 10 places)))

/-- The JSON object of options whose stop bits have a literal. -/
def toJson? (options : OpenOptions) : Option Json.Value :=
  (stopBitsLiteral? options.stopBits).map fun stopBits =>
    .ofMembers
      [ ("baudRate", .ofNat options.baudRate.toNat),
        ("dataBits", .ofNat options.dataBits.toNat),
        ("stopBits", .number stopBits),
        ("parity", .ofString options.parity) ]

end OpenOptions

namespace SetOptions

/-- The fields of an update, in order. -/
def jsonFields : List (Json.Field SetOptions) :=
  [ ⟨"brk", fun value options => value.optionalBoolean?.map fun brk => { options with brk }⟩,
    ⟨"dtr", fun value options => value.optionalBoolean?.map fun dtr => { options with dtr }⟩,
    ⟨"rts", fun value options => value.optionalBoolean?.map fun rts => { options with rts }⟩ ]

/-- An update from a JSON value. -/
def ofJson? (value : Json.Value) : Option SetOptions := Json.fill? jsonFields {} value

/-- An update from a JSON text. -/
def ofText? (text : String) : Option SetOptions := (Json.parse? text).bind ofJson?

/-- The JSON object of an update, without the absent fields. -/
def toJson (options : SetOptions) : Json.Value :=
  let member (key : String) (value : Option Bool) : Option (String × Json.Value) :=
    value.map fun supplied => (key, .boolean supplied)
  .ofMembers ([member "brk" options.brk, member "dtr" options.dtr,
    member "rts" options.rts].filterMap id)

end SetOptions

end CdcSerial
