/-!
# Base 64

Octets written with sixty-four letters, six bits a letter. Characters that are no letters do not
count, and padding ends the text where it completes a group of four; what follows is not looked at.
-/

namespace ProviderRegistry.Text.Base64

/-- The six bits that a letter stands for. -/
def bits? (c : Char) : Option Nat :=
  if 'A' ≤ c && c ≤ 'Z' then some (c.toNat - 'A'.toNat)
  else if 'a' ≤ c && c ≤ 'z' then some (c.toNat - 'a'.toNat + 26)
  else if c.isDigit then some (c.toNat - '0'.toNat + 52)
  else if c = '+' then some 62
  else if c = '/' then some 63
  else none

/-- The octet that the last bits of one letter and the first ones of the next make, where so many
letters of the group stand in front of the next. -/
def octet (place last next : Nat) : UInt8 :=
  if place = 1 then .ofNat (last * 4 + next / 16)
  else if place = 2 then .ofNat (last % 16 * 16 + next / 4)
  else .ofNat (last % 4 * 64 + next)

/-- Reads on after so many letters of a group, of which the last is given, and so many signs of
padding. A group must be complete. -/
def decodeFrom (place last pads : Nat) : List Char → Option (List UInt8)
  | [] => if place = 0 then some [] else none
  | c :: rest =>
    if c = '=' then
      if 2 ≤ place then
        if 4 ≤ place + pads + 1 then some [] else decodeFrom place last (pads + 1) rest
      else decodeFrom place last pads rest
    else
      match bits? c with
      | none => decodeFrom place last pads rest
      | some next =>
        if place = 0 then decodeFrom 1 next 0 rest
        else (decodeFrom ((place + 1) % 4) next 0 rest).map (octet place last next :: ·)

/-- The octets of a text. -/
def decode (cs : List Char) : Option (List UInt8) := decodeFrom 0 0 0 cs

example : decode "aGk=".toList = some [104, 105] := by decide +kernel
example : decode "aGk".toList = none := by decide +kernel
example : decode "aG kh==".toList = some [104, 105, 33] := by decide +kernel

end ProviderRegistry.Text.Base64
