/-!
# Reading UTF-8

Bytes are read as text if they are well-formed UTF-8. If not, the answer tells
how many bytes at the start are.
-/

namespace Passbook.Text.Utf8

/-- How many bytes from position `i` on are whole characters without a flaw
between them. -/
def validFrom (bytes : ByteArray) (i : Nat) : Nat :=
  match h : bytes.utf8DecodeChar? i with
  | some c =>
    have : i < bytes.size :=
      ByteArray.lt_size_of_isSome_utf8DecodeChar? (by simp [h])
    have : 0 < c.utf8Size := c.utf8Size_pos
    validFrom bytes (i + c.utf8Size)
  | none => i
termination_by bytes.size - i

/-- The text that some bytes encode, or how many of them are well-formed. -/
def decode (bytes : List UInt8) : Except Nat String :=
  if h : (ByteArray.mk bytes.toArray).IsValidUTF8 then .ok (String.fromUTF8 _ h)
  else .error (validFrom (ByteArray.mk bytes.toArray) 0)

end Passbook.Text.Utf8
