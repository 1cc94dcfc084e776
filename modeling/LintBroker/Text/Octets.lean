/-
  LintBroker.Text.Octets

  Texts as programs hand them on: rows of octets without an encoding.  An octet is held
  as the character with its number, so that rows can be read like other texts.
-/
import LintBroker.Text.Utf8

namespace LintBroker.Text

/-- A row of octets, each as the character with its number. -/
abbrev Octets := List Char

namespace Octets

/-- The row of some bytes. -/
def ofBytes (bytes : List UInt8) : Octets := bytes.map fun b => Char.ofNat b.toNat

/-- The bytes of a row. -/
def toBytes (octets : Octets) : List UInt8 := octets.map fun c => c.toNat.toUInt8

/-- The row that encodes a text. -/
def ofText (s : String) : Octets := ofBytes (Utf8.encode s)

/-- The text that a row encodes; what encodes nothing is replaced. -/
def toText (octets : Octets) : String := Utf8.decodeLenient (toBytes octets)

/-- The order of two rows by the numbers of their octets. -/
def atMost (x y : Octets) : Bool := !decide (y < x)

/-- The character of an octet has its number. -/
theorem toNat_ofNat_uint8 (b : UInt8) : (Char.ofNat b.toNat).toNat = b.toNat := by
  have h := b.toNat_lt
  have valid : b.toNat.isValidChar := Or.inl (by omega)
  rw [Char.ofNat, dif_pos valid]
  rfl

/-- Bytes that are held as octets come back. -/
theorem toBytes_ofBytes (bytes : List UInt8) : toBytes (ofBytes bytes) = bytes := by
  induction bytes with
  | nil => rfl
  | cons b rest ih =>
    simp only [toBytes, ofBytes, List.map_cons, List.map_map] at ih ⊢
    rw [toNat_ofNat_uint8, ih]
    simp

end Octets

end LintBroker.Text
