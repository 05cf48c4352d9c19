/-!
# Reading UTF-8

A sequence of octets is a text when it is the UTF-8 form of one; else the first place that rules
this out is a **fault**: an octet that starts nothing, an octet that does not continue what was
started, or an end before what was started is complete. A fault is as long as the octets that still
made sense, and at least one.

`decode` refuses at the first fault, and so does `decodeInPieces`, which counts positions from the
piece that the fault is in; `decodeLossy` puts the replacement character in the place of every
fault. What `decode` accepts it reads as the text it is: `decode_toUTF8`.
-/

namespace ProviderRegistry.Text.Utf8

/-- What is wrong with the octets at a fault. -/
inductive Defect where
  | start
  | continuation
  | unfinished
  deriving DecidableEq, Repr

/-- The description of a defect. -/
def Defect.text : Defect → String
  | .start => "invalid start byte"
  | .continuation => "invalid continuation byte"
  | .unfinished => "unexpected end of data"

/-- A **fault**: where the octets stop being a text, for how many octets, and why. The first of the
octets is kept for the message. -/
structure Fault where
  position : Nat
  width : Nat
  octet : UInt8
  defect : Defect
  deriving DecidableEq, Repr

/-- What stands at the front of a sequence of octets: a character or a fault, with its width. -/
inductive Front where
  | char (c : Char) (width : Nat)
  | fault (defect : Defect) (width : Nat)

/-- The payload of a continuation octet. -/
def payload (b : UInt8) : Nat := b.toNat % 64

/-- An octet that may continue a character, between two bounds. -/
def continues (b : UInt8) (lo : Nat) (hi : Nat) : Bool := lo ≤ b.toNat && b.toNat ≤ hi

/-- A three octet character: the second octet keeps out overlong forms and surrogates. -/
def front3 (b : UInt8) (rest : List UInt8) : Front :=
  let lo := if b = 0xE0 then 0xA0 else 0x80
  let hi := if b = 0xED then 0x9F else 0xBF
  match rest with
  | [] => .fault .unfinished 1
  | b2 :: rest =>
    if !continues b2 lo hi then .fault .continuation 1
    else
      match rest with
      | [] => .fault .unfinished 2
      | b3 :: _ =>
        if !continues b3 0x80 0xBF then .fault .continuation 2
        else .char (Char.ofNat ((b.toNat % 16 * 64 + payload b2) * 64 + payload b3)) 3

/-- A four octet character: the second octet keeps out overlong forms and what lies beyond the last
code point. -/
def front4 (b : UInt8) (rest : List UInt8) : Front :=
  let lo := if b = 0xF0 then 0x90 else 0x80
  let hi := if b = 0xF4 then 0x8F else 0xBF
  match rest with
  | [] => .fault .unfinished 1
  | b2 :: rest =>
    if !continues b2 lo hi then .fault .continuation 1
    else
      match rest with
      | [] => .fault .unfinished 2
      | b3 :: rest =>
        if !continues b3 0x80 0xBF then .fault .continuation 2
        else
          match rest with
          | [] => .fault .unfinished 3
          | b4 :: _ =>
            if !continues b4 0x80 0xBF then .fault .continuation 3
            else
              .char (Char.ofNat
                (((b.toNat % 8 * 64 + payload b2) * 64 + payload b3) * 64 + payload b4)) 4

/-- The front of a non-empty sequence of octets. -/
def front (b : UInt8) (rest : List UInt8) : Front :=
  if b < 0x80 then .char (Char.ofNat b.toNat) 1
  else if b < 0xC2 then .fault .start 1
  else if b < 0xE0 then
    match rest with
    | [] => .fault .unfinished 1
    | b2 :: _ =>
      if !continues b2 0x80 0xBF then .fault .continuation 1
      else .char (Char.ofNat (b.toNat % 32 * 64 + payload b2)) 2
  else if b < 0xF0 then front3 b rest
  else if b < 0xF5 then front4 b rest
  else .fault .start 1

/-- The first fault at or after a position. -/
def firstFault? (position : Nat) : List UInt8 → Option Fault
  | [] => none
  | b :: rest =>
    match front b rest with
    | .char _ width => firstFault? (position + width) (rest.drop (width - 1))
    | .fault defect width => some ⟨position, width, b, defect⟩
  termination_by octets => octets.length
  decreasing_by simp only [List.length_drop, List.length_cons]; omega

/-- The characters of a sequence of octets, with a replacement character for each fault. -/
def characters : List UInt8 → List Char
  | [] => []
  | b :: rest =>
    match front b rest with
    | .char c width => c :: characters (rest.drop (width - 1))
    | .fault _ width => Char.ofNat 0xFFFD :: characters (rest.drop (width - 1))
  termination_by octets => octets.length
  decreasing_by all_goals simp only [List.length_drop, List.length_cons]; omega

/-- The text of the octets, or their first fault. -/
def decode (octets : ByteArray) : Except Fault String :=
  match String.fromUTF8? octets with
  | some text => .ok text
  | none => .error ((firstFault? 0 octets.toList).getD ⟨0, 1, 0, .start⟩)

/-- The text of the octets, with a replacement character for each fault. -/
def decodeLossy (octets : ByteArray) : String :=
  match String.fromUTF8? octets with
  | some text => text
  | none => String.ofList (characters octets.toList)

/-- How many octets are read at a time where they are not all read at once. -/
@[irreducible]
def pieceSize : Nat := 8192

theorem pieceSize_pos : 0 < pieceSize := by
  rw [pieceSize]
  decide

/-- The first fault of octets that are read piece by piece, with its position in its piece. Octets
that start a character at the end of a piece are carried into the next one, the last of which is
empty. -/
def firstFaultInPieces? (carried : List UInt8) : List UInt8 → Option Fault
  | [] => firstFault? 0 carried
  | b :: rest =>
    let piece := carried ++ (b :: rest).take pieceSize
    match firstFault? 0 piece with
    | none => firstFaultInPieces? [] ((b :: rest).drop pieceSize)
    | some fault =>
      if fault.defect = .unfinished then
        firstFaultInPieces? (piece.drop fault.position) ((b :: rest).drop pieceSize)
      else some fault
  termination_by octets => octets.length
  decreasing_by
    all_goals
      rw [List.length_drop]
      exact Nat.sub_lt (List.length_pos_iff.2 (List.cons_ne_nil b rest)) pieceSize_pos

/-- The text of octets that are read piece by piece, or their first fault. -/
def decodeInPieces (octets : ByteArray) : Except Fault String :=
  match String.fromUTF8? octets with
  | some text => .ok text
  | none => .error ((firstFaultInPieces? [] octets.toList).getD ⟨0, 1, 0, .start⟩)

/-- Writing a text and reading it gives the text. -/
theorem decode_toUTF8 (text : String) : decode text.toUTF8 = .ok text := by
  have h : String.fromUTF8? text.toUTF8 = some text := by
    unfold String.fromUTF8?
    exact (dif_pos text.isValidUTF8).trans rfl
  rw [decode, h]

end ProviderRegistry.Text.Utf8
