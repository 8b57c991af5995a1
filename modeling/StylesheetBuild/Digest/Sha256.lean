/-!
# SHA-256

The digest of a byte string: pad to whole blocks of sixteen words, stretch each block to sixty-four
words, and mix them into the eight words of the state.
-/

namespace StylesheetBuild.Sha256

abbrev Word := UInt32

structure State where
  a : Word
  b : Word
  c : Word
  d : Word
  e : Word
  f : Word
  g : Word
  h : Word

def State.initial : State :=
  ⟨0x6a09e667, 0xbb67ae85, 0x3c6ef372, 0xa54ff53a, 0x510e527f, 0x9b05688c, 0x1f83d9ab, 0x5be0cd19⟩

def State.add (s t : State) : State :=
  ⟨s.a + t.a, s.b + t.b, s.c + t.c, s.d + t.d, s.e + t.e, s.f + t.f, s.g + t.g, s.h + t.h⟩

def State.words (s : State) : List Word :=
  [s.a, s.b, s.c, s.d, s.e, s.f, s.g, s.h]

def roundConstants : List Word :=
  [0x428a2f98, 0x71374491, 0xb5c0fbcf, 0xe9b5dba5, 0x3956c25b, 0x59f111f1, 0x923f82a4, 0xab1c5ed5,
   0xd807aa98, 0x12835b01, 0x243185be, 0x550c7dc3, 0x72be5d74, 0x80deb1fe, 0x9bdc06a7, 0xc19bf174,
   0xe49b69c1, 0xefbe4786, 0x0fc19dc6, 0x240ca1cc, 0x2de92c6f, 0x4a7484aa, 0x5cb0a9dc, 0x76f988da,
   0x983e5152, 0xa831c66d, 0xb00327c8, 0xbf597fc7, 0xc6e00bf3, 0xd5a79147, 0x06ca6351, 0x14292967,
   0x27b70a85, 0x2e1b2138, 0x4d2c6dfc, 0x53380d13, 0x650a7354, 0x766a0abb, 0x81c2c92e, 0x92722c85,
   0xa2bfe8a1, 0xa81a664b, 0xc24b8b70, 0xc76c51a3, 0xd192e819, 0xd6990624, 0xf40e3585, 0x106aa070,
   0x19a4c116, 0x1e376c08, 0x2748774c, 0x34b0bcb5, 0x391c0cb3, 0x4ed8aa4a, 0x5b9cca4f, 0x682e6ff3,
   0x748f82ee, 0x78a5636f, 0x84c87814, 0x8cc70208, 0x90befffa, 0xa4506ceb, 0xbef9a3f7, 0xc67178f2]

def rotateRight (x : Word) (n : Word) : Word :=
  (x >>> n) ||| (x <<< (32 - n))

def smallSigma0 (x : Word) : Word :=
  rotateRight x 7 ^^^ rotateRight x 18 ^^^ (x >>> 3)

def smallSigma1 (x : Word) : Word :=
  rotateRight x 17 ^^^ rotateRight x 19 ^^^ (x >>> 10)

def bigSigma0 (x : Word) : Word :=
  rotateRight x 2 ^^^ rotateRight x 13 ^^^ rotateRight x 22

def bigSigma1 (x : Word) : Word :=
  rotateRight x 6 ^^^ rotateRight x 11 ^^^ rotateRight x 25

def choose (x y z : Word) : Word :=
  (x &&& y) ^^^ (~~~x &&& z)

def majority (x y z : Word) : Word :=
  (x &&& y) ^^^ (x &&& z) ^^^ (y &&& z)

/-- The number in eight bytes, the highest first. -/
def lengthBytes (n : Nat) : List UInt8 :=
  (List.range 8).map fun i => UInt8.ofNat (n >>> (8 * (7 - i)))

/-- A one bit, zeros, and the length in bits, up to a whole number of blocks. -/
def padding (byteCount : Nat) : List UInt8 :=
  let zeros := (119 - byteCount % 64) % 64
  0x80 :: List.replicate zeros 0 ++ lengthBytes (8 * byteCount)

def bytesToWords : List UInt8 → List Word
  | a :: b :: c :: d :: rest =>
    (a.toUInt32 <<< 24 ||| b.toUInt32 <<< 16 ||| c.toUInt32 <<< 8 ||| d.toUInt32) ::
      bytesToWords rest
  | _ => []

/-- The words of a stretched block from the sixteen before each, which come newest first. -/
def stretch : Nat → List Word → List Word
  | 0, newestFirst => newestFirst.reverse
  | n + 1, newestFirst =>
    let word (i : Nat) : Word := newestFirst.getD i 0
    stretch n ((smallSigma1 (word 1) + word 6 + smallSigma0 (word 14) + word 15) :: newestFirst)

def schedule (block : List Word) : List Word :=
  stretch 48 block.reverse

def mix (s : State) (constant word : Word) : State :=
  let t1 := s.h + bigSigma1 s.e + choose s.e s.f s.g + constant + word
  let t2 := bigSigma0 s.a + majority s.a s.b s.c
  ⟨t1 + t2, s.a, s.b, s.c, s.d + t1, s.e, s.f, s.g⟩

def compress (s : State) (block : List Word) : State :=
  s.add ((roundConstants.zip (schedule block)).foldl (fun s kw => mix s kw.1 kw.2) s)

/-- Mixes in `count` blocks of sixty-four bytes. -/
def absorb : Nat → List UInt8 → State → State
  | 0, _, s => s
  | count + 1, bytes, s => absorb count (bytes.drop 64) (compress s (bytesToWords (bytes.take 64)))

def digest (bytes : List UInt8) : State :=
  let padded := bytes ++ padding bytes.length
  absorb (padded.length / 64) padded .initial

/-- Eight hexadecimal digits in lower case. -/
def wordHex (w : Word) : List Char :=
  (List.range 8).map fun i => Nat.digitChar ((w.toNat >>> (4 * (7 - i))) % 16)

def hex (bytes : List UInt8) : String :=
  String.ofList ((digest bytes).words.flatMap wordHex)

end StylesheetBuild.Sha256
