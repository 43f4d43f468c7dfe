import BindingAudit.Text.Search

/-!
# UTF-8

Decoding of bytes into characters, strict: a byte sequence that is not the shortest encoding of
a character is refused with the position, the extent and the reason of the fault.  Encoding goes
the other way and never fails.
-/

namespace BindingAudit.Text.Utf8

/-- Why a byte sequence cannot be decoded. -/
inductive Reason where
  | startByte
  | continuationByte
  | endOfData
deriving DecidableEq, Repr

/-- The wording of a reason. -/
def Reason.message : Reason → String
  | .startByte => "invalid start byte"
  | .continuationByte => "invalid continuation byte"
  | .endOfData => "unexpected end of data"

/-- A decoding fault: the offending bytes are those from `start`, `length` of them. -/
structure Fault where
  start : Nat
  length : Nat
  firstByte : UInt8
  reason : Reason
deriving DecidableEq, Repr

/-- The wording of a decoding fault. -/
def Fault.message (f : Fault) : String :=
  if f.length = 1 then
    "'utf-8' codec can't decode byte 0x" ++ String.ofList (hexDigits 2 f.firstByte.toNat)
      ++ " in position " ++ toString f.start ++ ": " ++ f.reason.message
  else
    "'utf-8' codec can't decode bytes in position " ++ toString f.start ++ "-"
      ++ toString (f.start + f.length - 1) ++ ": " ++ f.reason.message

/-- What a leading byte promises: how many continuation bytes follow, and the range the first
of them must lie in. -/
structure Lead where
  following : Nat
  low : Nat
  high : Nat
deriving DecidableEq, Repr

/-- The promise of a leading byte, or `none` where no character starts with it. -/
def lead? (b : UInt8) : Option Lead :=
  let n := b.toNat
  if n < 0x80 then some ⟨0, 0x80, 0xBF⟩
  else if n < 0xC2 then none
  else if n < 0xE0 then some ⟨1, 0x80, 0xBF⟩
  else if n = 0xE0 then some ⟨2, 0xA0, 0xBF⟩
  else if n = 0xED then some ⟨2, 0x80, 0x9F⟩
  else if n < 0xF0 then some ⟨2, 0x80, 0xBF⟩
  else if n = 0xF0 then some ⟨3, 0x90, 0xBF⟩
  else if n < 0xF4 then some ⟨3, 0x80, 0xBF⟩
  else if n = 0xF4 then some ⟨3, 0x80, 0x8F⟩
  else none

/-- The value bits of a leading byte with the given number of continuation bytes. -/
def leadBits (b : UInt8) : Nat → Nat
  | 0 => b.toNat
  | 1 => b.toNat % 0x20
  | 2 => b.toNat % 0x10
  | _ => b.toNat % 0x08

/-- Decode bytes, where a character may be under way.

`position` is the index of the next byte.  With `owed` positive, `owed` continuation bytes are
still due, the next one in the range `low` to `high`, for the character that began at `start`
with byte `first` and whose bits so far are `bits`. -/
def decodeFrom (position start : Nat) (first : UInt8) (owed low high bits : Nat) :
    List UInt8 → Except Fault (List Char)
  | [] => if owed = 0 then .ok [] else .error ⟨start, position - start, first, .endOfData⟩
  | b :: rest =>
    if owed = 0 then
      match lead? b with
      | none => .error ⟨position, 1, b, .startByte⟩
      | some lead =>
        if lead.following = 0 then
          (decodeFrom (position + 1) (position + 1) b 0 0x80 0xBF 0 rest).map
            (Char.ofNat b.toNat :: ·)
        else
          decodeFrom (position + 1) position b lead.following lead.low lead.high
            (leadBits b lead.following) rest
    else if low ≤ b.toNat ∧ b.toNat ≤ high then
      let bits := bits * 0x40 + b.toNat % 0x40
      if owed = 1 then
        (decodeFrom (position + 1) (position + 1) b 0 0x80 0xBF 0 rest).map (Char.ofNat bits :: ·)
      else
        decodeFrom (position + 1) start first (owed - 1) 0x80 0xBF bits rest
    else .error ⟨start, position - start, first, .continuationByte⟩

/-- Decode a whole byte sequence. -/
def decode (bytes : List UInt8) : Except Fault (List Char) :=
  decodeFrom 0 0 0 0 0x80 0xBF 0 bytes

/-- The bytes of a text. -/
def encode (cs : List Char) : List UInt8 :=
  cs.flatMap String.utf8EncodeChar

end BindingAudit.Text.Utf8
