import JoinEngine.Key

/-!
A hash function for keys: each piece is mixed into a 64-bit word, byte by byte or as a word, by
exclusive or and multiplication.
-/

namespace JoinEngine

namespace Fnv

def start : UInt64 := 0xcbf29ce484222325

def mixByte (h : UInt64) (byte : UInt8) : UInt64 := (h ^^^ byte.toUInt64) * 0x100000001b3

def mixWord (h word : UInt64) : UInt64 :=
  let h := (h ^^^ word) * 0x100000001b3
  let h := (h ^^^ (word >>> 32)) * 0x100000001b3
  h ^^^ (h >>> 29)

def mixPiece (h : UInt64) : HashPiece → UInt64
  | .byte b => mixByte h b
  | .word w => mixWord h w
  | .signed t => mixWord h t.toUInt64
  | .length n => mixWord h (UInt64.ofNat n)
  | .text s => s.toUTF8.data.foldl mixByte h
  | .bytes b => b.foldl mixByte h

end Fnv

instance fnvHasher : KeyHasher where
  hash pieces := pieces.foldl Fnv.mixPiece Fnv.start

end JoinEngine
