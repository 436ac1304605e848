import WorkloadForms.Text.Ascii

/-!
# Percent encoding

A percent sign and two hexadecimal digits stand for an octet; octets in a row are the encoding of
characters in UTF-8. `decodeOctets?` decodes octets, `decodePercents?` texts in which every percent
sign is an escape, and `percentOctets` texts in which a stray percent sign stands for itself.
-/

namespace WorkloadForms.Text

/-- How many octets a character takes that starts with this one, and the bits of the first that
belong to the character. -/
def leadOctet? (b : Nat) : Option (Nat × Nat) :=
  if b < 0x80 then some (1, b)
  else if 0xC0 ≤ b ∧ b < 0xE0 then some (2, b - 0xC0)
  else if 0xE0 ≤ b ∧ b < 0xF0 then some (3, b - 0xE0)
  else if 0xF0 ≤ b ∧ b < 0xF8 then some (4, b - 0xF0)
  else none

/-- The least code point that takes so many octets. -/
def leastOfWidth : Nat → Nat
  | 2 => 0x80
  | 3 => 0x800
  | 4 => 0x10000
  | _ => 0

/-- The bits of trailing octets behind those already read. -/
def trailing? (acc : Nat) : List Nat → Option Nat
  | [] => some acc
  | b :: bs => if 0x80 ≤ b ∧ b < 0xC0 then trailing? (acc * 64 + (b - 0x80)) bs else none

/-- The characters of octets in UTF-8. -/
def decodeOctets? : Nat → List Nat → Option (List Char)
  | _, [] => some []
  | 0, _ => none
  | n + 1, b :: bs => do
    let (width, bits) ← leadOctet? b
    if bs.length < width - 1 then none
    else
      let code ← trailing? bits (bs.take (width - 1))
      if code < leastOfWidth width ∨ 0x10FFFF < code ∨ (0xD800 ≤ code ∧ code ≤ 0xDFFF) then none
      else return Char.ofNat code :: (← decodeOctets? n (bs.drop (width - 1)))

/-- The octet of an escape whose percent sign has been read. -/
def escapedOctet? : List Char → Option (Nat × List Char)
  | a :: b :: rest => (number? 16 [a, b]).map (·, rest)
  | _ => none

/-- The octets of a character in UTF-8. -/
def octets (c : Char) : List Nat := (String.singleton c).toUTF8.toList.map UInt8.toNat

/-- The octets of a text in which every percent sign has to start an escape. -/
def strictOctets? : Nat → List Char → Option (List Nat)
  | _, [] => some []
  | 0, _ => none
  | n + 1, '%' :: rest => do
    let (b, rest) ← escapedOctet? rest
    return b :: (← strictOctets? n rest)
  | n + 1, c :: rest => do return octets c ++ (← strictOctets? n rest)

/-- The octets of a text in which a percent sign that starts no escape stands for itself. -/
def percentOctets : Nat → List Char → List Nat
  | _, [] => []
  | 0, _ => []
  | n + 1, '%' :: rest =>
    match escapedOctet? rest with
    | some (b, rest) => b :: percentOctets n rest
    | none => octets '%' ++ percentOctets n rest
  | n + 1, c :: rest => octets c ++ percentOctets n rest

/-- The characters of a text in which every percent sign has to start an escape. -/
def decodePercents? (s : List Char) : Option (List Char) := do
  let bs ← strictOctets? s.length s
  decodeOctets? bs.length bs

/-- The text that a percent encoded text stands for, when its octets are UTF-8. -/
def percentDecoded? (s : String) : Option String :=
  let cs := s.toList
  let bs := percentOctets cs.length cs
  (decodeOctets? bs.length bs).map String.ofList

end WorkloadForms.Text
