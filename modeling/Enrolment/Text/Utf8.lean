/-!
# Bytes and characters

Bodies and keys travel as bytes.  `encode` writes characters in UTF-8;
`decode` reads bytes back, one character or one *spot that is no text* at a
time, so that a reader can tell where a body stops being text and go on after
it.  A spot covers the bytes of a sequence that was begun well and broken off.

## Main definitions

* `Bytes` — a string of bytes.
* `encode`, `bytesOf` — characters to bytes.
* `decode` — bytes to characters, `none` for a spot that is no text.
* `text?` — the text that the bytes spell, if they are text throughout.
* `lossyText` — the text with U+FFFD for every spot that is none.
-/

namespace Enrolment

/-- A string of bytes. -/
abbrev Bytes := List UInt8

namespace Text

/-- The characters in UTF-8. -/
def encode (cs : List Char) : Bytes := cs.flatMap String.utf8EncodeChar

/-- The text in UTF-8. -/
def bytesOf (s : String) : Bytes := encode s.toList

/-- The number of bytes that the text takes in UTF-8. -/
def byteLength (s : String) : Nat := (bytesOf s).length

namespace Utf8

/-- A byte that continues a sequence. -/
def isTail (b : UInt8) : Bool := 0x80 ≤ b && b ≤ 0xbf

/-- The bytes that may follow the first byte of a sequence of three. -/
def mayFollowOfThree (a b : UInt8) : Bool :=
  (if a = 0xe0 then 0xa0 else 0x80) ≤ b && b ≤ (if a = 0xed then 0x9f else 0xbf)

/-- The bytes that may follow the first byte of a sequence of four. -/
def mayFollowOfFour (a b : UInt8) : Bool :=
  (if a = 0xf0 then 0x90 else 0x80) ≤ b && b ≤ (if a = 0xf4 then 0x8f else 0xbf)

/-- The character with the given payload bits, the leading ones first. -/
def assemble (lead : Nat) (tails : List UInt8) : Char :=
  Char.ofNat (tails.foldl (fun n b => n * 64 + (b.toNat - 0x80)) lead)

/-- Decode onto the characters read so far, the last of them first. -/
def decodeOnto (read : List (Option Char)) : Bytes → List (Option Char)
  | [] => read.reverse
  | a :: rest =>
    if a < 0x80 then decodeOnto (some (Char.ofNat a.toNat) :: read) rest
    else if 0xc2 ≤ a && a ≤ 0xdf then
      match rest with
      | b :: rest' =>
        if isTail b then decodeOnto (some (assemble (a.toNat - 0xc0) [b]) :: read) rest'
        else decodeOnto (none :: read) (b :: rest')
      | [] => (none :: read).reverse
    else if 0xe0 ≤ a && a ≤ 0xef then
      match rest with
      | b :: rest' =>
        if mayFollowOfThree a b then
          match rest' with
          | c :: rest'' =>
            if isTail c then decodeOnto (some (assemble (a.toNat - 0xe0) [b, c]) :: read) rest''
            else decodeOnto (none :: read) (c :: rest'')
          | [] => (none :: read).reverse
        else decodeOnto (none :: read) (b :: rest')
      | [] => (none :: read).reverse
    else if 0xf0 ≤ a && a ≤ 0xf4 then
      match rest with
      | b :: rest' =>
        if mayFollowOfFour a b then
          match rest' with
          | c :: rest'' =>
            if isTail c then
              match rest'' with
              | d :: rest''' =>
                if isTail d then
                  decodeOnto (some (assemble (a.toNat - 0xf0) [b, c, d]) :: read) rest'''
                else decodeOnto (none :: read) (d :: rest''')
              | [] => (none :: read).reverse
            else decodeOnto (none :: read) (c :: rest'')
          | [] => (none :: read).reverse
        else decodeOnto (none :: read) (b :: rest')
      | [] => (none :: read).reverse
    else decodeOnto (none :: read) rest

end Utf8

/-- The characters that the bytes spell, `none` for a spot that is no text. -/
def decode (bs : Bytes) : List (Option Char) := Utf8.decodeOnto [] bs

/-- The text that the bytes spell, if they are text throughout. -/
def text? (bs : Bytes) : Option String :=
  let cs := decode bs
  if cs.all Option.isSome then some (String.ofList (cs.filterMap id)) else none

/-- The text that the bytes spell, with U+FFFD for every spot that is no text. -/
def lossyText (bs : Bytes) : String :=
  String.ofList ((decode bs).map (·.getD '\ufffd'))

end Text

end Enrolment
