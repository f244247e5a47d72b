import CdcSerial.Error

/-!
# Device addresses

An address names a device by vendor, product and its place among the devices of the same product:
`usb:<vid>:<pid>:<index>`. The ids are hexadecimal and may carry a `0x`, the index is decimal.
-/

namespace CdcSerial

/--
The address of an attached device. The index counts the twins of a product in discovery order.
-/
structure Address where
  vendorId : UInt16
  productId : UInt16
  index : UInt16
deriving DecidableEq, Inhabited

namespace Address

/-- Whether a device with these ids is a twin of the addressed one. -/
def covers (address : Address) (vendorId productId : UInt16) : Bool :=
  address.vendorId == vendorId && address.productId == productId

/-- A field without the mark of a hexadecimal number. -/
def dropHexMark : List Char → List Char
  | '0' :: 'x' :: digits => digits
  | '0' :: 'X' :: digits => digits
  | field => field

/-- An id field. -/
def readId? (field : List Char) : Option UInt16 :=
  (Numeral.read? 16 65535 (dropHexMark field)).map UInt16.ofNat

/-- An index field. -/
def readIndex? (field : List Char) : Option UInt16 :=
  (Numeral.read? 10 65535 field).map UInt16.ofNat

/-- The fields of a text: the parts between its colons. -/
def fields : List Char → List (List Char)
  | [] => [[]]
  | character :: rest =>
    if character = ':' then [] :: fields rest
    else match fields rest with
      | [] => [[character]]
      | field :: others => (character :: field) :: others

/-- The address that a text spells, if it spells one. -/
def read? (text : String) : Option Address :=
  match fields text.toList with
  | [scheme, vendor, product, index] =>
    if scheme = ['u', 's', 'b'] then do
      let vendorId ← readId? vendor
      let productId ← readId? product
      let index ← readIndex? index
      return ⟨vendorId, productId, index⟩
    else none
  | _ => none

/-- The address that a text spells, or the error that it spells none. -/
def parse (text : String) : Except Error Address :=
  match read? text with
  | some address => .ok address
  | none => .error (.invalidAddress text)

/-- The characters of an address. -/
def chars (address : Address) : List Char :=
  "usb:".toList ++ Numeral.write 16 address.vendorId.toNat
    ++ ':' :: Numeral.write 16 address.productId.toNat
    ++ ':' :: Numeral.write 10 address.index.toNat

/-- The text of an address. -/
def text (address : Address) : String := String.ofList address.chars

end Address

end CdcSerial
