/-!
# Form encoding of query values

The encoding `application/x-www-form-urlencoded` on the bytes of a text:
letters, digits and `* - . _` stand for themselves, a space is written `+`,
and every other byte is a percent sign with two upper-case digits.  A query is
a list of such pairs joined by `&`.  `decode` and `parse` undo them.
-/

set_option autoImplicit false

namespace BookmarkHub.FormUrlencoded

def isPlain (byte : UInt8) : Bool :=
  let code := byte.toNat
  decide (0x30 ≤ code ∧ code ≤ 0x39) || decide (0x41 ≤ code ∧ code ≤ 0x5a) ||
    decide (0x61 ≤ code ∧ code ≤ 0x7a) ||
    code == 0x2a || code == 0x2d || code == 0x2e || code == 0x5f

def hexMark (value : Nat) : Char :=
  if value < 10 then Char.ofNat (0x30 + value) else Char.ofNat (0x37 + value)

def encodeByte (byte : UInt8) : List Char :=
  if isPlain byte then [Char.ofNat byte.toNat]
  else if byte = 0x20 then ['+']
  else ['%', hexMark (byte.toNat / 16), hexMark (byte.toNat % 16)]

def bytesOf (text : List Char) : List UInt8 := text.flatMap String.utf8EncodeChar

def encode (text : String) : List Char :=
  (bytesOf text.toList).flatMap encodeByte

def encodePair (pair : String × String) : List Char :=
  encode pair.1 ++ '=' :: encode pair.2

def query (pairs : List (String × String)) : List Char :=
  List.intercalate ['&'] (pairs.map encodePair)

/-! ## Reading -/

def hexValue? (mark : Char) : Option Nat :=
  let code := mark.toNat
  if 0x30 ≤ code ∧ code ≤ 0x39 then some (code - 0x30)
  else if 0x41 ≤ code ∧ code ≤ 0x46 then some (code - 0x37)
  else if 0x61 ≤ code ∧ code ≤ 0x66 then some (code - 0x57)
  else none

/-- The bytes that an encoded text stands for.  A percent sign without two
digits after it stands for itself. -/
def decodeBytes : List Char → List UInt8
  | [] => []
  | '+' :: rest => 0x20 :: decodeBytes rest
  | '%' :: high :: low :: rest =>
      match hexValue? high, hexValue? low with
      | some top, some bottom => UInt8.ofNat (16 * top + bottom) :: decodeBytes rest
      | _, _ => 0x25 :: decodeBytes (high :: low :: rest)
  | mark :: rest => String.utf8EncodeChar mark ++ decodeBytes rest

/-- The text that an encoded text stands for, if its bytes are a text. -/
def decode (marks : List Char) : Option String :=
  String.fromUTF8? (decodeBytes marks).toByteArray

/-- The parts of a text between the occurrences of a mark. -/
def splitAt (separator : Char) : List Char → List (List Char)
  | [] => [[]]
  | mark :: rest =>
      match splitAt separator rest with
      | [] => [[]]
      | part :: parts =>
          if mark = separator then [] :: part :: parts else (mark :: part) :: parts

/-- Reads one pair: the name ends at the first `=`. -/
def parsePair (marks : List Char) : Option (String × String) := do
  let name ← decode (marks.takeWhile (· != '='))
  let value ← decode ((marks.dropWhile (· != '=')).drop 1)
  return (name, value)

/-- Reads the pairs of a query; empty parts between `&` are skipped. -/
def parse (marks : List Char) : Option (List (String × String)) :=
  ((splitAt '&' marks).filter (!·.isEmpty)).mapM parsePair

end BookmarkHub.FormUrlencoded
