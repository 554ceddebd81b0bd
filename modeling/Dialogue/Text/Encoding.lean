import Dialogue.Text.Hex

/-!
# Texts as bytes

The five Unicode encodings and their reading. Bytes in UTF-8 are read with replacements, so every
row of bytes has a text. The other four are read in units of two or four bytes, which have to come
out even, and which of them a row of bytes is in shows in the zeros among its first bytes.
-/
namespace Dialogue.Text

/-- What stands for bytes that are no character, and for half a surrogate pair. -/
def replacement : Char := '\ufffd'

/-- What the first byte of a character says: the bits it gives, where the next byte lies, and how
many bytes follow. -/
structure Lead where
  bits : Nat
  low : Nat
  high : Nat
  following : Nat
  deriving DecidableEq

/-- The bounds of the second byte rule out long forms, surrogates and what lies beyond the last
character. -/
def lead? (b : Nat) : Option Lead :=
  if b < 0x80 then some ⟨b, 0x80, 0xbf, 0⟩
  else if b < 0xc2 then none
  else if b < 0xe0 then some ⟨b - 0xc0, 0x80, 0xbf, 1⟩
  else if b = 0xe0 then some ⟨0, 0xa0, 0xbf, 2⟩
  else if b = 0xed then some ⟨0xd, 0x80, 0x9f, 2⟩
  else if b < 0xf0 then some ⟨b - 0xe0, 0x80, 0xbf, 2⟩
  else if b = 0xf0 then some ⟨0, 0x90, 0xbf, 3⟩
  else if b < 0xf4 then some ⟨b - 0xf0, 0x80, 0xbf, 3⟩
  else if b = 0xf4 then some ⟨4, 0x80, 0x8f, 3⟩
  else none

/-- Reads the following bytes of a character, up to one that does not belong to it. -/
def continued (low high value : Nat) : Nat → List UInt8 → Option Nat × List UInt8
  | 0, rest => (some value, rest)
  | _ + 1, [] => (none, [])
  | n + 1, b :: rest =>
    if low ≤ b.toNat ∧ b.toNat ≤ high then
      continued 0x80 0xbf (value * 64 + (b.toNat - 0x80)) n rest
    else (none, b :: rest)

theorem length_continued_le (low high value n : Nat) (bs : List UInt8) :
    (continued low high value n bs).2.length ≤ bs.length := by
  induction n generalizing low high value bs with
  | zero => simp [continued]
  | succ n ih =>
    cases bs with
    | nil => simp [continued]
    | cons b rest =>
      unfold continued
      split
      · exact Nat.le_succ_of_le (ih 0x80 0xbf _ rest)
      · exact Nat.le_refl _

/-- The text of bytes in UTF-8. Every longest start of a character that breaks off, and every byte
that starts none, becomes one replacement. -/
def decodeUtf8 : List UInt8 → List Char
  | [] => []
  | b :: rest =>
    match lead? b.toNat with
    | none => replacement :: decodeUtf8 rest
    | some l =>
      let read := continued l.low l.high l.bits l.following rest
      (read.1.map Char.ofNat).getD replacement :: decodeUtf8 read.2
termination_by bs => bs.length
decreasing_by
  · exact Nat.lt_succ_self _
  · exact Nat.lt_succ_of_le (length_continued_le ..)

inductive ByteOrder where
  | bigEndian
  | littleEndian
  deriving DecidableEq

inductive Encoding where
  | utf8
  | utf16 (order : ByteOrder)
  | utf32 (order : ByteOrder)
  deriving DecidableEq

namespace Encoding

/-- The encoding of a text that begins with two ASCII characters, or is one: where the zeros stand
among its first bytes. -/
def guess : List UInt8 → Encoding
  | a :: b :: c :: d :: _ =>
    if a = 0 then (if b = 0 then utf32 .bigEndian else utf16 .bigEndian)
    else if b = 0 then (if c = 0 ∧ d = 0 then utf32 .littleEndian else utf16 .littleEndian)
    else utf8
  | [a, b] => if a = 0 then utf16 .bigEndian else if b = 0 then utf16 .littleEndian else utf8
  | _ => utf8

/-- The number of two bytes. -/
def pair : ByteOrder → UInt8 → UInt8 → Nat
  | .bigEndian, a, b => a.toNat * 0x100 + b.toNat
  | .littleEndian, a, b => b.toNat * 0x100 + a.toNat

def units16 (order : ByteOrder) : List UInt8 → Option (List Nat)
  | [] => some []
  | [_] => none
  | a :: b :: rest => (units16 order rest).map (pair order a b :: ·)

def units32 (order : ByteOrder) : List UInt8 → Option (List Nat)
  | [] => some []
  | a :: b :: c :: d :: rest =>
    let (high, low) := match order with
      | .bigEndian => (pair order a b, pair order c d)
      | .littleEndian => (pair order c d, pair order a b)
    (units32 order rest).map fun units => (high * 0x10000 + low) :: units
  | _ => none

def isSurrogate (n : Nat) : Bool := 0xd800 ≤ n && n < 0xe000

/-- A code point as a character. -/
def character (n : Nat) : Char := if isSurrogate n then replacement else Char.ofNat n

/-- Joins the surrogate pairs. -/
def joined : List Nat → List Char
  | [] => []
  | [n] => [character n]
  | high :: low :: rest =>
    if 0xd800 ≤ high ∧ high < 0xdc00 ∧ 0xdc00 ≤ low ∧ low < 0xe000 then
      Char.ofNat (0x10000 + (high - 0xd800) * 0x400 + (low - 0xdc00)) :: joined rest
    else character high :: joined (low :: rest)

/-- The text of bytes, if they come out even and lie within the range of characters. -/
def decode? : Encoding → List UInt8 → Option (List Char)
  | utf8, bs => some (decodeUtf8 bs)
  | utf16 order, bs => (units16 order bs).map joined
  | utf32 order, bs =>
    (units32 order bs).bind fun ns =>
      if ns.all (· < 0x110000) then some (ns.map character) else none

end Encoding
end Dialogue.Text
