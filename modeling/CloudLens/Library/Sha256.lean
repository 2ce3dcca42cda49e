import Mathlib.Algebra.Group.Nat.Defs
import Mathlib.Data.List.Basic

/-! The secure hash with words of 32 bits and blocks of 64 bytes, over bytes as
natural numbers. A message is padded to whole blocks, each block is expanded to
64 words and folded into the chaining words, and the digest is written in
lower-case hexadecimal. Texts are hashed by their UTF-8 bytes. -/
namespace CloudLens.Library.Sha256

def roundConstants : List ℕ :=
  [0x428a2f98, 0x71374491, 0xb5c0fbcf, 0xe9b5dba5, 0x3956c25b, 0x59f111f1, 0x923f82a4, 0xab1c5ed5,
    0xd807aa98, 0x12835b01, 0x243185be, 0x550c7dc3, 0x72be5d74, 0x80deb1fe, 0x9bdc06a7, 0xc19bf174,
    0xe49b69c1, 0xefbe4786, 0x0fc19dc6, 0x240ca1cc, 0x2de92c6f, 0x4a7484aa, 0x5cb0a9dc, 0x76f988da,
    0x983e5152, 0xa831c66d, 0xb00327c8, 0xbf597fc7, 0xc6e00bf3, 0xd5a79147, 0x06ca6351, 0x14292967,
    0x27b70a85, 0x2e1b2138, 0x4d2c6dfc, 0x53380d13, 0x650a7354, 0x766a0abb, 0x81c2c92e, 0x92722c85,
    0xa2bfe8a1, 0xa81a664b, 0xc24b8b70, 0xc76c51a3, 0xd192e819, 0xd6990624, 0xf40e3585, 0x106aa070,
    0x19a4c116, 0x1e376c08, 0x2748774c, 0x34b0bcb5, 0x391c0cb3, 0x4ed8aa4a, 0x5b9cca4f, 0x682e6ff3,
    0x748f82ee, 0x78a5636f, 0x84c87814, 0x8cc70208, 0x90befffa, 0xa4506ceb, 0xbef9a3f7, 0xc67178f2]

def word (n : ℕ) : ℕ := n % 2^32

def rotateRight (k x : ℕ) : ℕ := word (x >>> k ||| x <<< (32 - k))

def bigSigma0 (x : ℕ) : ℕ := rotateRight 2 x ^^^ rotateRight 13 x ^^^ rotateRight 22 x

def bigSigma1 (x : ℕ) : ℕ := rotateRight 6 x ^^^ rotateRight 11 x ^^^ rotateRight 25 x

def smallSigma0 (x : ℕ) : ℕ := rotateRight 7 x ^^^ rotateRight 18 x ^^^ (x >>> 3)

def smallSigma1 (x : ℕ) : ℕ := rotateRight 17 x ^^^ rotateRight 19 x ^^^ (x >>> 10)

def choose (x y z : ℕ) : ℕ := (x &&& y) ^^^ ((2^32 - 1 - x) &&& z)

def majority (x y z : ℕ) : ℕ := (x &&& y) ^^^ (x &&& z) ^^^ (y &&& z)

structure Words where
  a : ℕ
  b : ℕ
  c : ℕ
  d : ℕ
  e : ℕ
  f : ℕ
  g : ℕ
  h : ℕ

def Words.toList (s : Words) : List ℕ := [s.a, s.b, s.c, s.d, s.e, s.f, s.g, s.h]

def initial : Words :=
  ⟨0x6a09e667,0xbb67ae85,0x3c6ef372,0xa54ff53a,0x510e527f,0x9b05688c,0x1f83d9ab,0x5be0cd19⟩

/-- One round, with the sum of its constant and its word of the schedule. -/
def round (s : Words) (keyed : ℕ) : Words :=
  let first := s.h + bigSigma1 s.e + choose s.e s.f s.g + keyed
  let second := bigSigma0 s.a + majority s.a s.b s.c
  ⟨word (first + second),s.a,s.b,s.c,word (s.d + first),s.e,s.f,s.g⟩

/-- The words after the first sixteen, from the last sixteen, newest first. -/
def extend : ℕ → List ℕ → List ℕ
  | 0, _ => []
  | n + 1, recent =>
    let next := word (smallSigma1 (recent.getD 1 0) + recent.getD 6 0 + smallSigma0 (recent.getD 14 0) + recent.getD 15 0)
    next :: extend n (next :: recent.take 15)

def schedule (block : List ℕ) : List ℕ := block ++ extend 48 block.reverse

def compress (s : Words) (block : List ℕ) : Words :=
  let t := (List.zipWith (· + ·) roundConstants (schedule block)).foldl round s
  ⟨word (s.a + t.a),word (s.b + t.b),word (s.c + t.c),word (s.d + t.d),
    word (s.e + t.e),word (s.f + t.f),word (s.g + t.g),word (s.h + t.h)⟩

def bigEndian (bytes : List ℕ) : ℕ := bytes.foldl (fun n byte => 256 * n + byte) 0

def chunks (size : ℕ) : ℕ → List ℕ → List (List ℕ)
  | 0, _ => []
  | n + 1, items => items.take size :: chunks size n (items.drop size)

def lengthBytes (n : ℕ) : List ℕ := (List.range 8).map (fun i => (8 * n) / 256^(7 - i) % 256)

def pad (bytes : List ℕ) : List ℕ :=
  bytes ++ 128 :: (List.replicate ((119 - bytes.length % 64) % 64) 0 ++ lengthBytes bytes.length)

def blocks (bytes : List ℕ) : List (List ℕ) :=
  (chunks 64 ((pad bytes).length / 64) (pad bytes)).map (fun block => (chunks 4 16 block).map bigEndian)

def digestWords (bytes : List ℕ) : Words := (blocks bytes).foldl compress initial

def hexWord (n : ℕ) : List Char := (List.range 8).map (fun i => Nat.digitChar (n / 16^(7 - i) % 16))

def hexdigest (bytes : List ℕ) : List Char := (digestWords bytes).toList.flatMap hexWord

def encodeChar (c : Char) : List ℕ :=
  let n := c.toNat
  if n < 0x80 then [n]
  else if n < 0x800 then [0xc0 + n / 0x40, 0x80 + n % 0x40]
  else if n < 0x10000 then [0xe0 + n / 0x1000, 0x80 + n / 0x40 % 0x40, 0x80 + n % 0x40]
  else [0xf0 + n / 0x40000, 0x80 + n / 0x1000 % 0x40, 0x80 + n / 0x40 % 0x40, 0x80 + n % 0x40]

def encode (text : List Char) : List ℕ := text.flatMap encodeChar

/-- The hexadecimal digest of a text. -/
def textDigest (text : List Char) : List Char := hexdigest (encode text)

def hexDigits : List Char := (List.range 16).map Nat.digitChar

example : hexdigest (encode "abc".toList) =
    "ba7816bf8f01cfea414140de5dae2223b00361a396177a9cb410ff61f20015ad".toList := by decide +kernel

theorem mem_hexWord {n : ℕ} {c : Char} (member : c ∈ hexWord n) : c ∈ hexDigits := by
  obtain ⟨i,_,rfl⟩ := List.mem_map.mp member
  exact List.mem_map.mpr ⟨_,List.mem_range.mpr (Nat.mod_lt _ (by omega)),rfl⟩

theorem mem_textDigest {text : List Char} {c : Char} (member : c ∈ textDigest text) : c ∈ hexDigits := by
  obtain ⟨_,_,inside⟩ := List.mem_flatMap.mp member
  exact mem_hexWord inside

@[simp] theorem length_hexWord (n : ℕ) : (hexWord n).length = 8 := by
  simp [hexWord]

theorem length_textDigest (text : List Char) : (textDigest text).length = 64 := by
  simp [textDigest,hexdigest,Words.toList]

end CloudLens.Library.Sha256
