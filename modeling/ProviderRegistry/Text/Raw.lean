import ProviderRegistry.Text.Quoted

/-!
# Raw texts

A text that comes from outside may hold **surrogates** beside characters: each is half a character
in another encoding, and stands for nothing on its own. Such a text can be put together with others
and shown between quotes, but it has no octets: `RawText.encode` gives them for a text that is
**whole**, and says of any other where the first surrogates stand (`RawText.encode_eq_ok_iff`).

Every string is a raw text, and those are the whole ones (`RawText.isWhole_iff`).
-/

namespace ProviderRegistry

/-- A code point: a character, or one of the surrogates by its place among them. -/
inductive CodePoint where
  | char (c : Char)
  | surrogate (n : Fin 0x800)
  deriving DecidableEq, Repr

namespace CodePoint

/-- The number of a surrogate. -/
def ofSurrogate (n : Fin 0x800) : Nat := 0xd800 + n

/-- The code point of a number, if there is one. -/
def ofNat? (n : Nat) : Option CodePoint :=
  if h : 0xd800 ≤ n ∧ n < 0xe000 then some (.surrogate ⟨n - 0xd800, by omega⟩)
  else if n < 0x110000 then some (.char (Char.ofNat n))
  else none

/-- The character that a code point is, unless it is a surrogate. -/
def char? : CodePoint → Option Char
  | .char c => some c
  | .surrogate _ => none

/-- The place among the surrogates, unless it is a character. -/
def surrogate? : CodePoint → Option (Fin 0x800)
  | .char _ => none
  | .surrogate n => some n

/-- Is it half a character? -/
def isSurrogate : CodePoint → Bool
  | .char _ => false
  | .surrogate _ => true

/-- A surrogate written by its number. -/
def escapedSurrogate (n : Fin 0x800) : List Char := '\\' :: 'u' :: Text.hexDigits 4 (ofSurrogate n)

/-- A code point as it stands between two quotes `q`. -/
def escaped (q : Char) : CodePoint → List Char
  | .char c => Text.escaped q c
  | .surrogate n => escapedSurrogate n

end CodePoint

/-- A **raw text** is a sequence of code points. -/
structure RawText where
  points : List CodePoint
  deriving DecidableEq, Repr

namespace RawText

/-- A string as a raw text. -/
@[coe]
def ofString (s : String) : RawText := ⟨s.toList.map .char⟩

instance : Coe String RawText := ⟨ofString⟩

instance : Append RawText := ⟨fun s t => ⟨s.points ++ t.points⟩⟩

/-- Texts one after another. -/
def join (texts : List RawText) : RawText := ⟨texts.flatMap points⟩

/-- A text without code points. -/
def isEmpty (text : RawText) : Bool := text.points.isEmpty

/-- A text is **whole** when no half of a character stands in it. -/
def isWhole (text : RawText) : Bool := text.points.all (!·.isSurrogate)

/-- The characters of a text. -/
def chars (text : RawText) : List Char := text.points.filterMap CodePoint.char?

/-- The text between quotes. -/
def quote (text : RawText) : String :=
  let q := Text.quoteFor text.chars
  String.ofList (q :: text.points.flatMap (CodePoint.escaped q) ++ [q])

/-- The text with the replacement character in the place of every surrogate. -/
def mended (text : RawText) : String :=
  String.ofList (text.points.map fun point => point.char?.getD (Char.ofNat 0xfffd))

/-! ### Octets -/

/-- Why a text has no octets: surrogates, of which the first is kept for the message, from a
position on. -/
structure Unencodable where
  first : Fin 0x800
  position : Nat
  width : Nat
  deriving DecidableEq, Repr

/-- The surrogates in words. -/
def Unencodable.message (u : Unencodable) : String :=
  let which :=
    if u.width = 1 then
      s!"character '{String.ofList (CodePoint.escapedSurrogate u.first)}' in position {u.position}"
    else s!"characters in position {u.position}-{u.position + u.width - 1}"
  s!"'utf-8' codec can't encode {which}: surrogates not allowed"

/-- The first surrogates of a text, and where they stand. -/
def unencodable (text : RawText) : Unencodable :=
  let position := (text.points.takeWhile (!·.isSurrogate)).length
  { first := (text.points.findSome? CodePoint.surrogate?).getD 0
    position
    width := ((text.points.drop position).takeWhile (·.isSurrogate)).length }

/-- The octets of a text, unless it holds surrogates. -/
def encode (text : RawText) : Except Unencodable ByteArray :=
  if text.isWhole then .ok (String.ofList text.chars).toUTF8 else .error text.unencodable

/-! ### Laws -/

@[simp]
theorem points_coe (s : String) : (s : RawText).points = s.toList.map .char := rfl

@[simp]
theorem points_append (s t : RawText) : (s ++ t).points = s.points ++ t.points := rfl

@[simp]
theorem isWhole_coe (s : String) : (s : RawText).isWhole = true := by
  simp [isWhole, CodePoint.isSurrogate]

@[simp]
theorem isWhole_append (s t : RawText) : (s ++ t).isWhole = (s.isWhole && t.isWhole) := by
  simp [isWhole]

/-- Texts are whole together just when each of them is. -/
theorem isWhole_join {texts : List RawText} :
    (join texts).isWhole = true ↔ ∀ text ∈ texts, text.isWhole = true := by
  simp only [isWhole, join, List.all_flatMap, List.all_eq_true]

/-- The characters of a string are the string. -/
@[simp]
theorem chars_coe (s : String) : (s : RawText).chars = s.toList := by
  have hself : CodePoint.char? ∘ CodePoint.char = some := rfl
  rw [chars, points_coe, List.filterMap_map, hself, List.filterMap_some]

/-- **The whole texts** are the strings. -/
theorem isWhole_iff {text : RawText} : text.isWhole = true ↔ ∃ s : String, text = s := by
  refine ⟨fun h => ⟨String.ofList text.chars, ?_⟩, ?_⟩
  · obtain ⟨points⟩ := text
    rw [ofString, chars, String.toList_ofList, RawText.mk.injEq]
    induction points with
    | nil => rfl
    | cons point points ih =>
      rw [isWhole, List.all_cons, Bool.and_eq_true] at h
      cases point with
      | surrogate n => exact absurd h.1 Bool.false_ne_true
      | char c => exact congrArg (CodePoint.char c :: ·) (ih h.2)
  · rintro ⟨s, rfl⟩
    exact isWhole_coe s

@[simp]
theorem encode_coe (s : String) : (s : RawText).encode = .ok s.toUTF8 := by
  rw [encode, if_pos (isWhole_coe s), chars_coe, String.ofList_toList]

/-- **A text has octets** just when it is whole, and they are those of the string that it is. -/
theorem encode_eq_ok_iff {text : RawText} {octets : ByteArray} :
    text.encode = .ok octets ↔ ∃ s : String, text = s ∧ octets = s.toUTF8 := by
  refine ⟨fun h => ?_, ?_⟩
  · cases hwhole : text.isWhole with
    | false =>
      rw [encode, hwhole] at h
      cases h
    | true =>
      obtain ⟨s, rfl⟩ := isWhole_iff.mp hwhole
      exact ⟨s, rfl, (Except.ok.inj ((encode_coe s).symm.trans h)).symm⟩
  · rintro ⟨s, rfl, rfl⟩
    exact encode_coe s

/-- A text that is not whole has no octets, for its first surrogates. -/
theorem encode_of_not_isWhole {text : RawText} (h : text.isWhole = false) :
    text.encode = .error text.unencodable := by
  rw [encode, h]
  rfl

example : (RawText.mk [.char 'a', .surrogate 0]).quote = "'a\\ud800'" := by cbv

end RawText

end ProviderRegistry
