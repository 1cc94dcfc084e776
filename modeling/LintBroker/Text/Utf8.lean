/-
  LintBroker.Text.Utf8

  Reading bytes as UTF-8.  The bytes are cut into pieces: encoded characters, and
  broken stretches, each as long as it could have been the start of a character.
  A strict reader stops at the first broken stretch and says where it is; a lenient
  one puts the replacement character in place of each.
-/
import LintBroker.Number.Decimal

namespace LintBroker.Text.Utf8

open LintBroker.Number

/-! ## Pieces -/

/-- Why a stretch of bytes is no character. -/
inductive Reason where
  | invalidStart
  | invalidContinuation
  | unexpectedEnd
  deriving DecidableEq, Repr

/-- The words for a reason. -/
def Reason.text : Reason → String
  | .invalidStart => "invalid start byte"
  | .invalidContinuation => "invalid continuation byte"
  | .unexpectedEnd => "unexpected end of data"

/-- An encoded character, or a stretch of bytes that begins none. -/
inductive Piece where
  | scalar (c : Char)
  | broken (bytes : List UInt8) (reason : Reason)
  deriving DecidableEq, Repr

/-- The character with a scalar value that is known to be one. -/
def scalar (n : Nat) : Piece := .scalar (Char.ofNat n)

/-- What the first byte of a character announces: how many bytes follow, in which bounds the next
    one lies, and the bits that it contributes itself. -/
structure Lead where
  following : Nat
  low : Nat
  high : Nat
  bits : Nat

/-- The announcement of a first byte above the ASCII range.  The bounds exclude longer encodings
    than needed, surrogates and values above the last code point. -/
def lead? (b : Nat) : Option Lead :=
  if b < 0xc2 then none
  else if b < 0xe0 then some ⟨1, 0x80, 0xbf, b - 0xc0⟩
  else if b = 0xe0 then some ⟨2, 0xa0, 0xbf, 0⟩
  else if b = 0xed then some ⟨2, 0x80, 0x9f, 0xd⟩
  else if b < 0xf0 then some ⟨2, 0x80, 0xbf, b - 0xe0⟩
  else if b = 0xf0 then some ⟨3, 0x90, 0xbf, 0⟩
  else if b < 0xf4 then some ⟨3, 0x80, 0xbf, b - 0xf0⟩
  else if b = 0xf4 then some ⟨3, 0x80, 0x8f, 4⟩
  else none

/-- A byte that can continue a character. -/
def isContinuation (b : UInt8) : Bool := 0x80 ≤ b.toNat && b.toNat ≤ 0xbf

/-- The first piece of a row of bytes, and how many bytes it takes. -/
def firstPiece : List UInt8 → Option (Piece × Nat)
  | [] => none
  | b :: rest =>
    if b.toNat < 0x80 then some (scalar b.toNat, 1)
    else
      match lead? b.toNat with
      | none => some (.broken [b] .invalidStart, 1)
      | some l =>
        match rest with
        | [] => some (.broken [b] .unexpectedEnd, 1)
        | c :: rest =>
          if c.toNat < l.low || l.high < c.toNat then some (.broken [b] .invalidContinuation, 1)
          else if l.following = 1 then some (scalar (l.bits * 0x40 + (c.toNat - 0x80)), 2)
          else
            match rest with
            | [] => some (.broken [b, c] .unexpectedEnd, 2)
            | d :: rest =>
              if !isContinuation d then some (.broken [b, c] .invalidContinuation, 2)
              else if l.following = 2 then
                some (scalar ((l.bits * 0x40 + (c.toNat - 0x80)) * 0x40 + (d.toNat - 0x80)), 3)
              else
                match rest with
                | [] => some (.broken [b, c, d] .unexpectedEnd, 3)
                | e :: _ =>
                  if !isContinuation e then some (.broken [b, c, d] .invalidContinuation, 3)
                  else
                    let upper := (l.bits * 0x40 + (c.toNat - 0x80)) * 0x40 + (d.toNat - 0x80)
                    some (scalar (upper * 0x40 + (e.toNat - 0x80)), 4)

/-- All pieces of a row of bytes; `fuel` bounds their number. -/
def piecesUpTo : Nat → List UInt8 → List Piece
  | 0, _ => []
  | fuel + 1, bytes =>
    match firstPiece bytes with
    | none => []
    | some (piece, taken) => piece :: piecesUpTo fuel (bytes.drop taken)

/-- The pieces of a row of bytes, in order. -/
def pieces (bytes : List UInt8) : List Piece := piecesUpTo bytes.length bytes

/-! ## Writing -/

/-- The bytes of one character. -/
def encodeChar (c : Char) : List UInt8 :=
  let n := c.toNat
  if n < 0x80 then [n.toUInt8]
  else if n < 0x800 then [(0xc0 + n / 0x40).toUInt8, (0x80 + n % 0x40).toUInt8]
  else if n < 0x10000 then
    [(0xe0 + n / 0x1000).toUInt8, (0x80 + n / 0x40 % 0x40).toUInt8, (0x80 + n % 0x40).toUInt8]
  else
    [(0xf0 + n / 0x40000).toUInt8, (0x80 + n / 0x1000 % 0x40).toUInt8,
      (0x80 + n / 0x40 % 0x40).toUInt8, (0x80 + n % 0x40).toUInt8]

/-- The bytes of a text. -/
def encode (s : String) : List UInt8 := s.toList.flatMap encodeChar

/-! ## Reading -/

/-- The first broken stretch of a row of bytes: its place, its bytes and what is wrong with it. -/
structure Fault where
  position : Nat
  bytes : List UInt8
  reason : Reason
  deriving DecidableEq, Repr

/-- The words for a fault: a single byte is shown, of a longer stretch the ends are given. -/
def Fault.message (f : Fault) : String :=
  let place :=
    match f.bytes with
    | [b] => "byte 0x" ++ String.ofList (hexChars 2 b.toNat) ++ " in position "
        ++ natText f.position
    | bytes => "bytes in position " ++ natText f.position ++ "-"
        ++ natText (f.position + bytes.length - 1)
  "'utf-8' codec can't decode " ++ place ++ ": " ++ f.reason.text

/-- The characters of pieces that begin at `position`, unless one of them is broken. -/
def strictFrom (position : Nat) : List Piece → Except Fault (List Char)
  | [] => .ok []
  | .broken bytes reason :: _ => .error ⟨position, bytes, reason⟩
  | .scalar c :: rest => (strictFrom (position + (encodeChar c).length) rest).map (c :: ·)

/-- The text of the bytes, or the first place where they are no text. -/
def decode (bytes : List UInt8) : Except Fault String :=
  (strictFrom 0 (pieces bytes)).map String.ofList

/-- The character of a piece; a broken stretch becomes one replacement character. -/
def Piece.lenient : Piece → Char
  | .scalar c => c
  | .broken _ _ => Char.ofNat 0xfffd

/-- The text of the bytes with each broken stretch replaced. -/
def decodeLenient (bytes : List UInt8) : String :=
  String.ofList ((pieces bytes).map Piece.lenient)

end LintBroker.Text.Utf8
