import Mathlib.Data.Nat.Notation

/-!
SHA-256 of the UTF-8 encoding of a string, as lowercase hexadecimal digits.
-/

namespace Sha256

abbrev Word := BitVec 32

def roundConstants : List Word :=
  [0x428a2f98, 0x71374491, 0xb5c0fbcf, 0xe9b5dba5, 0x3956c25b, 0x59f111f1, 0x923f82a4, 0xab1c5ed5,
   0xd807aa98, 0x12835b01, 0x243185be, 0x550c7dc3, 0x72be5d74, 0x80deb1fe, 0x9bdc06a7, 0xc19bf174,
   0xe49b69c1, 0xefbe4786, 0x0fc19dc6, 0x240ca1cc, 0x2de92c6f, 0x4a7484aa, 0x5cb0a9dc, 0x76f988da,
   0x983e5152, 0xa831c66d, 0xb00327c8, 0xbf597fc7, 0xc6e00bf3, 0xd5a79147, 0x06ca6351, 0x14292967,
   0x27b70a85, 0x2e1b2138, 0x4d2c6dfc, 0x53380d13, 0x650a7354, 0x766a0abb, 0x81c2c92e, 0x92722c85,
   0xa2bfe8a1, 0xa81a664b, 0xc24b8b70, 0xc76c51a3, 0xd192e819, 0xd6990624, 0xf40e3585, 0x106aa070,
   0x19a4c116, 0x1e376c08, 0x2748774c, 0x34b0bcb5, 0x391c0cb3, 0x4ed8aa4a, 0x5b9cca4f, 0x682e6ff3,
   0x748f82ee, 0x78a5636f, 0x84c87814, 0x8cc70208, 0x90befffa, 0xa4506ceb, 0xbef9a3f7, 0xc67178f2]

/-- The eight working words `a` to `h`. -/
structure State where
  a : Word
  b : Word
  c : Word
  d : Word
  e : Word
  f : Word
  g : Word
  h : Word

def initial : State :=
  ⟨0x6a09e667, 0xbb67ae85, 0x3c6ef372, 0xa54ff53a, 0x510e527f, 0x9b05688c, 0x1f83d9ab, 0x5be0cd19⟩

def bigSigma0 (x : Word) : Word := x.rotateRight 2 ^^^ x.rotateRight 13 ^^^ x.rotateRight 22

def bigSigma1 (x : Word) : Word := x.rotateRight 6 ^^^ x.rotateRight 11 ^^^ x.rotateRight 25

def smallSigma0 (x : Word) : Word := x.rotateRight 7 ^^^ x.rotateRight 18 ^^^ (x >>> 3)

def smallSigma1 (x : Word) : Word := x.rotateRight 17 ^^^ x.rotateRight 19 ^^^ (x >>> 10)

def choose (x y z : Word) : Word := (x &&& y) ^^^ (~~~x &&& z)

def majority (x y z : Word) : Word := (x &&& y) ^^^ (x &&& z) ^^^ (y &&& z)

def step (s : State) (kw : Word × Word) : State :=
  let t₁ := s.h + bigSigma1 s.e + choose s.e s.f s.g + kw.1 + kw.2
  let t₂ := bigSigma0 s.a + majority s.a s.b s.c
  ⟨t₁ + t₂, s.a, s.b, s.c, s.d + t₁, s.e, s.f, s.g⟩

/-- The message schedule, its last word first, extended by `n` words. -/
def extend : ℕ → List Word → List Word
  | 0, ws => ws
  | n + 1, ws =>
    extend n ((smallSigma1 (ws.getD 1 0) + ws.getD 6 0 + smallSigma0 (ws.getD 14 0) + ws.getD 15 0) :: ws)

def compress (s : State) (block : List Word) : State :=
  let t := (roundConstants.zip (extend 48 block.reverse).reverse).foldl step s
  ⟨s.a + t.a, s.b + t.b, s.c + t.c, s.d + t.d, s.e + t.e, s.f + t.f, s.g + t.g, s.h + t.h⟩

/-- The `k` bytes of `n`, most significant byte first. -/
def bigEndian : ℕ → ℕ → List ℕ
  | 0, _ => []
  | k + 1, n => bigEndian k (n / 256) ++ [n % 256]

def pad (bytes : List ℕ) : List ℕ :=
  bytes ++ 0x80 :: List.replicate ((119 - bytes.length % 64) % 64) 0 ++ bigEndian 8 (8 * bytes.length)

def toWords : List ℕ → List Word
  | a :: b :: c :: d :: bytes => BitVec.ofNat 32 (((a * 256 + b) * 256 + c) * 256 + d) :: toWords bytes
  | _ => []

/-- `n` blocks of sixteen words. -/
def compressBlocks : ℕ → State → List Word → State
  | 0, s, _ => s
  | n + 1, s, ws => compressBlocks n (compress s (ws.take 16)) (ws.drop 16)

def digest (bytes : List ℕ) : List Word :=
  let words := toWords (pad bytes)
  let s := compressBlocks (words.length / 16) initial words
  [s.a, s.b, s.c, s.d, s.e, s.f, s.g, s.h]

def hexDigit (n : ℕ) : Char := if n < 10 then Char.ofNat ('0'.toNat + n) else Char.ofNat ('a'.toNat + (n - 10))

/-- `hashlib.sha256(s.encode("utf-8")).hexdigest()`. -/
@[irreducible] def hexdigest (s : String) : String :=
  let bytes := (s.toList.flatMap String.utf8EncodeChar).map UInt8.toNat
  String.ofList (((digest bytes).flatMap fun w => bigEndian 4 w.toNat).flatMap fun b =>
    [hexDigit (b / 16), hexDigit (b % 16)])

theorem length_hexdigest (s : String) : (hexdigest s).length = 64 := by
  have hlength (words : List Word) : ((words.flatMap fun w => bigEndian 4 w.toNat).flatMap fun b =>
      [hexDigit (b / 16), hexDigit (b % 16)]).length = 8 * words.length := by
    induction words with
    | nil => rfl
    | cons w words ih =>
      rw [List.flatMap_cons, List.flatMap_append, List.length_append, ih, List.length_cons]
      simp only [bigEndian, List.nil_append, List.cons_append, List.flatMap_cons, List.flatMap_nil, List.length_cons,
        List.length_nil]
      omega
  unfold hexdigest
  rw [String.length_ofList, hlength]
  rfl

example : hexdigest "abc" = "ba7816bf8f01cfea414140de5dae2223b00361a396177a9cb410ff61f20015ad" := by
  decide +kernel

end Sha256
