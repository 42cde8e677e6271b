import F2k.Lib.Text

namespace F2k

open Lib

/-! The texts that are appended to a message buffer: numbers, octets and escaped strings. -/

/-- `net2number`: the length is passed as 16 bits, and other lengths have no number. -/
def net2number (field : Bytes) : UInt64 :=
  let number := fun (length : Nat) => UInt64.ofNat (beNat (field.take length))
  match field.length % 65536 with
  | 1 => number 1
  | 2 => number 2
  | 4 => number 4
  | 6 => number 6
  | 8 => number 8
  | _ => 0

/-- The digit of a remainder, which has the sign of the number it comes from. -/
def itoaDigit (remainder : Int) : UInt8 :=
  (ascii "zyxwvutsrqponmlkjihgfedcba9876543210123456789abcdefghijklmnopqrstuvwxyz").getD
    (35 + remainder).toNat 0

/-- The loop of `_itoa10`; its buffer bounds the digits. -/
def itoa10From : Nat → Int → Bytes → Bytes
  | 0, _, text => text
  | digits + 1, tmpValue, text =>
      let value := tmpValue.tdiv 10
      let text := itoaDigit (tmpValue - value * 10) :: text
      if value ≠ 0 then itoa10From digits value text
      else if tmpValue < 0 then 45 :: text
      else text

def itoa10 (value : Int) : Bytes :=
  itoa10From 63 value []

/-- `printbuf_memappend_fast_n10`: the number is printed as a signed one. -/
def n10 (value : UInt64) : Bytes :=
  itoa10 value.toInt64.toInt

def hexDigit (value : UInt8) : UInt8 :=
  (ascii "0123456789abcdef").getD value.toNat 0

/-- `printbuf_memappend_fast_n16` -/
def n16 (value : UInt8) : Bytes :=
  [hexDigit ((value &&& 0xf0) >>> 4), hexDigit (value &&& 0x0f)]

/-- The octet as `_intoaV4` writes it. -/
def octetText (byte : UInt8) : Bytes :=
  let tens := byte / 10
  let hundreds := tens / 10
  if tens > 0 then
    if hundreds > 0 then [hundreds + 48, tens % 10 + 48, byte % 10 + 48]
    else [tens % 10 + 48, byte % 10 + 48]
  else [byte % 10 + 48]

def intoaV4 (address : UInt32) : Bytes :=
  let octet := fun (shift : UInt32) => octetText ((address >>> shift) &&& 0xff).toUInt8
  octet 24 ++ ascii "." ++ octet 16 ++ ascii "." ++ octet 8 ++ ascii "." ++ octet 0

/-! `append_escaped` -/

def checkMultibyteCharacters (text : Bytes) (nchar : Nat) : Bool :=
  decide (nchar ≤ text.length) && (text.take nchar).all fun byte => byte &&& 0xc0 == 0x80

/-- Length of the character that starts with the byte `first`, if it is a valid one. -/
def validUtf8Char (first : UInt8) (rest : Bytes) : Option Nat :=
  if first &&& 0x80 = 0 then some 1
  else if first = 0xc0 ∨ first = 0xc1 then none
  else if first &&& 0xe0 = 0xc0 then
    if checkMultibyteCharacters rest 1 then some 2 else none
  else if first &&& 0xf0 = 0xe0 then
    if checkMultibyteCharacters rest 2 then some 3 else none
  else if first &&& 0xf8 = 0xf0 then
    if checkMultibyteCharacters rest 3 then some 4 else none
  else none

def toEscapeChars : Bytes := [34, 92, 47, 8, 12, 10, 13, 9]

def escapedChars : Bytes := ascii "\"\\/bfnrt"

def appendEscapedFrom : Nat → Bytes → Bytes
  | 0, _ => []
  | _, [] => []
  | turns + 1, first :: rest =>
      match validUtf8Char first rest with
      | none => ascii "%" ++ n16 first ++ appendEscapedFrom turns rest
      | some utf8Length =>
          if utf8Length = 1 ∧ first ∈ toEscapeChars then
            [92, escapedChars.getD (toEscapeChars.idxOf first) 0] ++ appendEscapedFrom turns rest
          else
            first :: rest.take (utf8Length - 1) ++
              appendEscapedFrom turns (rest.drop (utf8Length - 1))

/-- Every turn of the loop takes a byte at least. -/
def appendEscaped (text : Bytes) : Bytes :=
  appendEscapedFrom text.length text

/-- `printbuf_memappend_fast_string`: a C string ends at its first zero byte. -/
def fastString (text : Bytes) : Bytes :=
  cString text

end F2k
