import StreamMesh.Text.Quoted

/-!
# The SHA-256 digest

A text is cut into blocks of sixteen words. Each block is stretched to sixty-four words, which are
mixed one by one into eight words of state; the state after the last block is the digest.

## Main definitions

* `Digest.padded` — the bytes of a text with their end mark and length
* `Digest.schedule` — the words of a block, stretched
* `Digest.compress` — the state after a block
* `sha256` — the digest of a text in hexadecimal digits
-/

namespace StreamMesh

namespace Digest

/-- The bits of a word, turned to the right. -/
def rotate (x : UInt32) (count : UInt32) : UInt32 := (x >>> count) ||| (x <<< (32 - count))

/-- The first bits of the fractions of the cube roots of the first sixty-four primes. -/
def roundConstants : List UInt32 := [
  0x428a2f98, 0x71374491, 0xb5c0fbcf, 0xe9b5dba5, 0x3956c25b, 0x59f111f1, 0x923f82a4, 0xab1c5ed5,
  0xd807aa98, 0x12835b01, 0x243185be, 0x550c7dc3, 0x72be5d74, 0x80deb1fe, 0x9bdc06a7, 0xc19bf174,
  0xe49b69c1, 0xefbe4786, 0x0fc19dc6, 0x240ca1cc, 0x2de92c6f, 0x4a7484aa, 0x5cb0a9dc, 0x76f988da,
  0x983e5152, 0xa831c66d, 0xb00327c8, 0xbf597fc7, 0xc6e00bf3, 0xd5a79147, 0x06ca6351, 0x14292967,
  0x27b70a85, 0x2e1b2138, 0x4d2c6dfc, 0x53380d13, 0x650a7354, 0x766a0abb, 0x81c2c92e, 0x92722c85,
  0xa2bfe8a1, 0xa81a664b, 0xc24b8b70, 0xc76c51a3, 0xd192e819, 0xd6990624, 0xf40e3585, 0x106aa070,
  0x19a4c116, 0x1e376c08, 0x2748774c, 0x34b0bcb5, 0x391c0cb3, 0x4ed8aa4a, 0x5b9cca4f, 0x682e6ff3,
  0x748f82ee, 0x78a5636f, 0x84c87814, 0x8cc70208, 0x90befffa, 0xa4506ceb, 0xbef9a3f7, 0xc67178f2]

/-- Eight words that a text is mixed into. -/
structure State where
  a : UInt32
  b : UInt32
  c : UInt32
  d : UInt32
  e : UInt32
  f : UInt32
  g : UInt32
  h : UInt32
  deriving DecidableEq, Repr

/-- The state before the first block: the first bits of the fractions of the square roots of the
first eight primes. -/
def State.start : State :=
  ⟨0x6a09e667, 0xbb67ae85, 0x3c6ef372, 0xa54ff53a, 0x510e527f, 0x9b05688c, 0x1f83d9ab, 0x5be0cd19⟩

/-- The state after one word of the schedule with the constant of its round. -/
def State.mix (s : State) (constant word : UInt32) : State :=
  let high := rotate s.e 6 ^^^ rotate s.e 11 ^^^ rotate s.e 25
  let choice := (s.e &&& s.f) ^^^ (~~~s.e &&& s.g)
  let first := s.h + high + choice + constant + word
  let low := rotate s.a 2 ^^^ rotate s.a 13 ^^^ rotate s.a 22
  let majority := (s.a &&& s.b) ^^^ (s.a &&& s.c) ^^^ (s.b &&& s.c)
  ⟨first + (low + majority), s.a, s.b, s.c, s.d + first, s.e, s.f, s.g⟩

/-- The sum of two states, word by word. -/
def State.add (s t : State) : State :=
  ⟨s.a + t.a, s.b + t.b, s.c + t.c, s.d + t.d, s.e + t.e, s.f + t.f, s.g + t.g, s.h + t.h⟩

/-- The words of a state. -/
def State.words (s : State) : List UInt32 := [s.a, s.b, s.c, s.d, s.e, s.f, s.g, s.h]

/-- The word that follows sixteen others in a schedule. -/
def nextWord (window : List UInt32) : UInt32 :=
  let early := window.getD 1 0
  let late := window.getD 14 0
  let s0 := rotate early 7 ^^^ rotate early 18 ^^^ (early >>> 3)
  let s1 := rotate late 17 ^^^ rotate late 19 ^^^ (late >>> 10)
  window.getD 0 0 + s0 + window.getD 9 0 + s1

/-- Some words of a schedule, of which `window` holds the next sixteen. -/
def stretch : Nat → List UInt32 → List UInt32
  | 0, _ => []
  | count + 1, window => window.headD 0 :: stretch count (window.tail ++ [nextWord window])

/-- The words of a block, stretched to one word a round. -/
def schedule (block : List UInt32) : List UInt32 := stretch 64 block

/-- The state after a block. -/
def compress (s : State) (block : List UInt32) : State :=
  s.add ((roundConstants.zip (schedule block)).foldl (fun t p => t.mix p.1 p.2) s)

/-- A number in a fixed count of bytes, the greatest first. -/
def bytesOf : Nat → Nat → List UInt8
  | 0, _ => []
  | count + 1, n => bytesOf count (n / 256) ++ [(n % 256).toUInt8]

/-- Some bytes with a set bit, zeros, and the number of their bits, so that blocks come out even. -/
def padded (bytes : List UInt8) : List UInt8 :=
  -- The end mark and the length take nine bytes of the last block.
  let zeros := (119 - bytes.length % 64) % 64
  bytes ++ 0x80 :: (List.replicate zeros 0 ++ bytesOf 8 (bytes.length * 8))

/-- The words of some bytes, four bytes each. -/
def wordsOf : List UInt8 → List UInt32
  | a :: b :: c :: d :: rest =>
    let word := (a.toUInt32 <<< 24) ||| (b.toUInt32 <<< 16) ||| (c.toUInt32 <<< 8) ||| d.toUInt32
    word :: wordsOf rest
  | _ => []

/-- The state after some blocks of words. -/
def compressAll : Nat → State → List UInt32 → State
  | 0, s, _ => s
  | count + 1, s, words => compressAll count (compress s (words.take 16)) (words.drop 16)

end Digest

open Digest in
/-- The digest of a text in hexadecimal digits. -/
def sha256 (text : String) : String :=
  let words := wordsOf (padded text.toUTF8.toList)
  let final := compressAll (words.length / 16) .start words
  String.ofList (final.words.flatMap fun w => Text.hexDigits 8 w.toNat)

end StreamMesh
