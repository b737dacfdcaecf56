/-!
# UTF-8 over lists of bytes

Source texts are edited byte by byte, so this module fixes how a text and its bytes correspond:

* `Utf8.encode` writes a text as bytes;
* `Utf8.front` says what stands at the front of a byte sequence: a well-formed character, or a
  **maximal ill-formed subpart** (the longest run that still begins some character);
* `Utf8.decode` reads a text and refuses at the first ill-formed subpart, saying where and why;
* `Utf8.decodeLossy` reads a text and puts one replacement character for each ill-formed subpart.
-/

namespace SignalLint

/-- The contents of a file or of a source text. -/
abbrev Bytes := List UInt8

namespace Utf8

/-- The bytes of a text. -/
def encode (text : String) : Bytes :=
  text.toList.flatMap String.utf8EncodeChar

/-- Why a byte sequence does not start with a character. -/
inductive Fault where
  /-- The first byte starts no character. -/
  | badStart
  /-- A byte in the middle cannot continue the character. -/
  | badContinuation
  /-- The sequence ends inside the character. -/
  | cutShort
  deriving DecidableEq, Repr

/-- What stands at the front of a non-empty byte sequence, with the bytes it takes. -/
inductive Front where
  | char (c : Char) (width : Nat)
  | illFormed (fault : Fault) (width : Nat)
  deriving DecidableEq, Repr

/-- What a lead byte promises: the trailing bytes to come, the bits it contributes, and the bounds
of the first trailing byte (later ones lie between `0x80` and `0xBF`). -/
structure Lead where
  trailing : Nat
  bits : Nat
  low : UInt8
  high : UInt8
  deriving DecidableEq, Repr

/-- The promise of a byte as the first of a character; `none` for a byte that starts no character.
The narrower bounds keep out overlong forms, surrogates and values past the last code point. -/
def lead? (b : UInt8) : Option Lead :=
  if b < 0x80 then some ⟨0, b.toNat, 0x80, 0xBF⟩
  else if b < 0xC2 then none
  else if b < 0xE0 then some ⟨1, b.toNat - 0xC0, 0x80, 0xBF⟩
  else if b < 0xF0 then
    some ⟨2, b.toNat - 0xE0, if b = 0xE0 then 0xA0 else 0x80, if b = 0xED then 0x9F else 0xBF⟩
  else if b < 0xF5 then
    some ⟨3, b.toNat - 0xF0, if b = 0xF0 then 0x90 else 0x80, if b = 0xF4 then 0x8F else 0xBF⟩
  else none

/-- Reads the trailing bytes that are still to come; `bits` and `width` belong to what was read. -/
def trail : (missing : Nat) → (low high : UInt8) → (bits width : Nat) → Bytes → Front
  | 0, _, _, bits, width, _ => .char (Char.ofNat bits) width
  | _ + 1, _, _, _, width, [] => .illFormed .cutShort width
  | missing + 1, low, high, bits, width, b :: rest =>
    if low ≤ b ∧ b ≤ high then
      trail missing 0x80 0xBF (bits * 64 + (b.toNat - 0x80)) (width + 1) rest
    else .illFormed .badContinuation width

/-- What stands at the front of `b :: rest`. -/
def front (b : UInt8) (rest : Bytes) : Front :=
  match lead? b with
  | none => .illFormed .badStart 1
  | some lead => trail lead.trailing lead.low lead.high lead.bits 1 rest

/-- Where and why a byte sequence is not a text. -/
structure IllFormed where
  fault : Fault
  position : Nat
  width : Nat
  firstByte : UInt8
  deriving DecidableEq, Repr

/-- The characters of `bytes`, the first of which stands at `position` of the whole. -/
def decodeFrom (position : Nat) : Bytes → Except IllFormed (List Char)
  | [] => .ok []
  | b :: rest =>
    match h : front b rest with
    | .illFormed fault width => .error ⟨fault, position, width, b⟩
    | .char c width => (decodeFrom (position + width) (rest.drop (width - 1))).map (c :: ·)
  termination_by bytes => bytes.length
  decreasing_by simp only [List.length_drop, List.length_cons]; omega

/-- The text with these bytes, if they are one. -/
def decode (bytes : Bytes) : Except IllFormed String :=
  (decodeFrom 0 bytes).map String.ofList

/-- The replacement character stands for each ill-formed subpart. -/
def decodeLossyChars : Bytes → List Char
  | [] => []
  | b :: rest =>
    match front b rest with
    | .illFormed _ width => '\uFFFD' :: decodeLossyChars (rest.drop (width - 1))
    | .char c width => c :: decodeLossyChars (rest.drop (width - 1))
  termination_by bytes => bytes.length
  decreasing_by all_goals simp only [List.length_drop, List.length_cons]; omega

/-- The text with these bytes, ill-formed subparts replaced. -/
def decodeLossy (bytes : Bytes) : String :=
  String.ofList (decodeLossyChars bytes)

/-- A byte in lower-case hexadecimal, two digits. -/
def hexByte (b : UInt8) : String :=
  let digit (n : Nat) : Char := Nat.digitChar n
  String.ofList [digit (b.toNat / 16), digit (b.toNat % 16)]

/-- The wording of a fault. -/
def Fault.message : Fault → String
  | .badStart => "invalid start byte"
  | .badContinuation => "invalid continuation byte"
  | .cutShort => "unexpected end of data"

/-- A single bad byte is shown, a longer subpart is given by its first and last position. -/
def IllFormed.message (e : IllFormed) : String :=
  if e.width ≤ 1 then
    s!"'utf-8' codec can't decode byte 0x{hexByte e.firstByte} in position {e.position}: " ++
      e.fault.message
  else
    s!"'utf-8' codec can't decode bytes in position {e.position}-{e.position + e.width - 1}: " ++
      e.fault.message

end Utf8

end SignalLint
