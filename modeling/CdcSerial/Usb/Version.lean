/-!
# Release numbers

A device reports its release number as four binary-coded decimal digits. Split into parts, the two
leading digits are the major number, and each of the others is a part of its own. Putting the parts
together again gives back every word whose second digit is below ten.
-/

namespace CdcSerial

/-- A release number in parts. -/
structure Version where
  major : UInt8
  minor : UInt8
  subMinor : UInt8
deriving DecidableEq

namespace Version

/-- One of the four digits of a word, counted from the last. -/
def digit (bcd : UInt16) (place : UInt16) : UInt8 := ((bcd >>> (4 * place)) &&& 0x0F).toUInt8

/-- The parts of a word of four digits. -/
def ofBcd (bcd : UInt16) : Version where
  major := 10 * digit bcd 3 + digit bcd 2
  minor := digit bcd 1
  subMinor := digit bcd 0

/-- The word of four digits made from the parts; bits beyond sixteen are dropped. -/
def toBcd (version : Version) : UInt16 :=
  ((version.major.toUInt16 / 10) <<< 12)
    ||| ((version.major.toUInt16 % 10) <<< 8)
    ||| ((version.minor.toUInt16 &&& 0x0F) <<< 4)
    ||| (version.subMinor.toUInt16 &&& 0x0F)

end Version

end CdcSerial
