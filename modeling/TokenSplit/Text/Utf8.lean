/-!
# UTF-8

Reading text from octets.  The first octet that cannot be read is reported with its place and
with what is wrong there.
-/

namespace TokenSplit.Text

/-- Why octets are no text: an octet that starts no character, a character broken off by a wrong
octet after `length` good ones, or one that the end cuts off. -/
inductive Utf8Fault where
  | start (position : Nat) (octet : UInt8)
  | continuation (position length : Nat) (octet : UInt8)
  | truncated (octet : UInt8) (length : Nat)
deriving DecidableEq, Repr

/-- Whether an octet may follow a first octet: two narrow ranges keep out overlong forms, the
others surrogates and what lies beyond the last character. -/
def isSecondOctet (first second : UInt8) : Bool :=
  let low : UInt8 := if first = 0xE0 then 0xA0 else if first = 0xF0 then 0x90 else 0x80
  let high : UInt8 := if first = 0xED then 0x9F else if first = 0xF4 then 0x8F else 0xBF
  low ≤ second && second ≤ high

/-- Whether an octet may stand in the third or fourth place of a character. -/
def isLaterOctet (octet : UInt8) : Bool :=
  0x80 ≤ octet && octet ≤ 0xBF

/-- The six low bits of an octet. -/
def lowBits (octet : UInt8) : Nat :=
  octet.toNat % 0x40

/-- Reads characters from octets that begin at a position. -/
def decodeUtf8From (position : Nat) : List UInt8 → Except Utf8Fault (List Char)
  | [] => .ok []
  | a :: rest =>
    if a < 0x80 then
      (Char.ofNat a.toNat :: ·) <$> decodeUtf8From (position + 1) rest
    else if a < 0xC2 ∨ 0xF4 < a then
      .error (.start position a)
    else
      match rest with
      | [] => .error (.truncated a 1)
      | b :: rest =>
        if !isSecondOctet a b then
          .error (.continuation position 1 a)
        else if a < 0xE0 then
          (Char.ofNat ((a.toNat % 0x20) * 0x40 + lowBits b) :: ·) <$>
            decodeUtf8From (position + 2) rest
        else
          match rest with
          | [] => .error (.truncated a 2)
          | c :: rest =>
            if !isLaterOctet c then
              .error (.continuation position 2 a)
            else if a < 0xF0 then
              (Char.ofNat (((a.toNat % 0x10) * 0x40 + lowBits b) * 0x40 + lowBits c) :: ·) <$>
                decodeUtf8From (position + 3) rest
            else
              match rest with
              | [] => .error (.truncated a 3)
              | d :: rest =>
                if !isLaterOctet d then
                  .error (.continuation position 3 a)
                else
                  let code :=
                    (((a.toNat % 0x08) * 0x40 + lowBits b) * 0x40 + lowBits c) * 0x40 + lowBits d
                  (Char.ofNat code :: ·) <$> decodeUtf8From (position + 4) rest

/-- Reads a text from octets. -/
def decodeUtf8 (octets : List UInt8) : Except Utf8Fault (List Char) :=
  decodeUtf8From 0 octets

/-- The octets of a text. -/
def encodeUtf8 (s : List Char) : List UInt8 :=
  s.flatMap String.utf8EncodeChar

/-- Makes every line end a single line feed. -/
def unifyLineEnds : List Char → List Char
  | '\r' :: '\n' :: rest => '\n' :: unifyLineEnds rest
  | '\r' :: rest => '\n' :: unifyLineEnds rest
  | c :: rest => c :: unifyLineEnds rest
  | [] => []

end TokenSplit.Text
