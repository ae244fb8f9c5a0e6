/-!
# Lossy decoding

Bytes read as UTF-8, where each longest start of a character that breaks off,
and each byte that starts none, becomes one replacement character.
-/

namespace Whitespace
namespace Text

/-- What a sequence starting with a given byte looks like: its length, the range of its
second byte, and the bits of its first byte. -/
def sequenceShape? (first : Nat) : Option (Nat × Nat × Nat × Nat) :=
  if first < 0x80 then some (1, 0, 0, first)
  else if first < 0xC2 then none
  else if first < 0xE0 then some (2, 0x80, 0xBF, first - 0xC0)
  else if first = 0xE0 then some (3, 0xA0, 0xBF, 0)
  else if first = 0xED then some (3, 0x80, 0x9F, 0xD)
  else if first < 0xF0 then some (3, 0x80, 0xBF, first - 0xE0)
  else if first = 0xF0 then some (4, 0x90, 0xBF, 0)
  else if first < 0xF4 then some (4, 0x80, 0xBF, first - 0xF0)
  else if first = 0xF4 then some (4, 0x80, 0x8F, 4)
  else none

/-- Read the remaining bytes of a sequence: the code point, if the sequence is complete,
and the number of bytes that belong to it. -/
def readTail (code taken : Nat) (low high : Nat) : Nat -> List Nat -> Option Nat × Nat
  | 0, _ => (some code, taken)
  | _ + 1, [] => (none, taken)
  | missing + 1, byte :: rest =>
      if low ≤ byte ∧ byte ≤ high then
        readTail (code * 64 + (byte - 0x80)) (taken + 1) 0x80 0xBF missing rest
      else
        (none, taken)

def leading (first : Nat) (rest : List Nat) : Option Nat × Nat :=
  match sequenceShape? first with
  | none => (none, 1)
  | some (length, low, high, bits) => readTail bits 1 low high (length - 1) rest

def decodeLossyFrom : Nat -> List Nat -> List Char
  | 0, _ => []
  | _ + 1, [] => []
  | fuel + 1, first :: rest =>
      let (code, taken) := leading first rest
      let c := match code with
        | some code => Char.ofNat code
        | none => '�'
      c :: decodeLossyFrom fuel (rest.drop (taken - 1))

def decodeLossy (bytes : List UInt8) : String :=
  String.ofList (decodeLossyFrom bytes.length (bytes.map UInt8.toNat))

end Text
end Whitespace
