/-! # UTF-8

Texts in a database and configuration files are bytes that should be UTF-8. The decoder accepts
exactly the shortest encodings of Unicode scalar values; anything else makes the whole text
undecodable. -/

namespace BinaryDiff
namespace Utf8

/-- The six payload bits of a continuation byte. -/
def tail? (byte : UInt8) : Option Nat :=
  if 0x80 ≤ byte ∧ byte < 0xC0 then some (byte.toNat - 0x80) else none

/-- The character with a code point, provided that its encoding may not be shorter. -/
def scalar? (least code : Nat) : Option Char :=
  if h : least ≤ code ∧ code.isValidChar then some (Char.ofNatAux code h.2) else none

/-- The characters that bytes encode. -/
def decode : List UInt8 → Option (List Char)
  | [] => some []
  | a :: rest =>
    if a < 0x80 then do return Char.ofNat a.toNat :: (← decode rest)
    else match rest with
      | [] => none
      | b :: rest =>
        if 0xC0 ≤ a ∧ a < 0xE0 then do
          let c ← scalar? 0x80 ((a.toNat - 0xC0) * 64 + (← tail? b))
          return c :: (← decode rest)
        else match rest with
          | [] => none
          | c :: rest =>
            if 0xE0 ≤ a ∧ a < 0xF0 then do
              let c ← scalar? 0x800 (((a.toNat - 0xE0) * 64 + (← tail? b)) * 64 + (← tail? c))
              return c :: (← decode rest)
            else match rest with
              | [] => none
              | d :: rest =>
                if 0xF0 ≤ a ∧ a < 0xF8 then do
                  let high := ((a.toNat - 0xF0) * 64 + (← tail? b)) * 64 + (← tail? c)
                  let c ← scalar? 0x10000 (high * 64 + (← tail? d))
                  return c :: (← decode rest)
                else none

/-- The text that bytes encode. -/
def text? (bytes : List UInt8) : Option String :=
  (decode bytes).map String.ofList

/-- The bytes of a text. -/
def encode (text : String) : List UInt8 :=
  text.toUTF8.toList

end Utf8
end BinaryDiff
