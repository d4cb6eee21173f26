/-!
# Texts in octets

Octets that start with one of the two marks of a byte order hold a text in units of sixteen bits,
the mark itself included; all others hold one in units of eight. Octets that encode no text are
refused, so nothing is replaced or left out.
-/

namespace QueryDraft.Text

/-- The units of sixteen bits in octets, of which each has the greater octet first or last. -/
def units16? (greaterFirst : Bool) : List UInt8 → Option (List Nat)
  | [] => some []
  | [_] => none
  | a :: b :: rest =>
    let (high, low) := if greaterFirst then (a.toNat, b.toNat) else (b.toNat, a.toNat)
    (units16? greaterFirst rest).map ((256 * high + low) :: ·)

/-- The characters that units of sixteen bits stand for. Those beyond the range of one unit take
two, the first half of the pair before the second. -/
def characters16? : List Nat → Option (List Char)
  | [] => some []
  | n :: rest =>
    if n.isValidChar then (characters16? rest).map (Char.ofNat n :: ·)
    else match rest with
      | m :: rest =>
        if n < 0xDC00 && 0xDC00 ≤ m && m < 0xE000 then
          let code := 0x10000 + 1024 * (n - 0xD800) + (m - 0xDC00)
          (characters16? rest).map (Char.ofNat code :: ·)
        else none
      | [] => none

/-- The text that octets encode. -/
def decode? : List UInt8 → Option String
  | 0xFF :: 0xFE :: rest => ((units16? false (0xFF :: 0xFE :: rest)).bind characters16?).map .ofList
  | 0xFE :: 0xFF :: rest => ((units16? true (0xFE :: 0xFF :: rest)).bind characters16?).map .ofList
  | octets => String.fromUTF8? ⟨octets.toArray⟩

end QueryDraft.Text
