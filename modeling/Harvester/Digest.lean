import Harvester.Text.Utf8
namespace Harvester

-- SHA-256: the message is padded to blocks of 64 bytes, and each block is mixed into eight words.
namespace Digest

def roundWords : List UInt32 :=
  [0x428a2f98, 0x71374491, 0xb5c0fbcf, 0xe9b5dba5, 0x3956c25b, 0x59f111f1, 0x923f82a4, 0xab1c5ed5, 0xd807aa98,
  0x12835b01, 0x243185be, 0x550c7dc3, 0x72be5d74, 0x80deb1fe, 0x9bdc06a7, 0xc19bf174, 0xe49b69c1, 0xefbe4786,
  0x0fc19dc6, 0x240ca1cc, 0x2de92c6f, 0x4a7484aa, 0x5cb0a9dc, 0x76f988da, 0x983e5152, 0xa831c66d, 0xb00327c8,
  0xbf597fc7, 0xc6e00bf3, 0xd5a79147, 0x06ca6351, 0x14292967, 0x27b70a85, 0x2e1b2138, 0x4d2c6dfc, 0x53380d13,
  0x650a7354, 0x766a0abb, 0x81c2c92e, 0x92722c85, 0xa2bfe8a1, 0xa81a664b, 0xc24b8b70, 0xc76c51a3, 0xd192e819,
  0xd6990624, 0xf40e3585, 0x106aa070, 0x19a4c116, 0x1e376c08, 0x2748774c, 0x34b0bcb5, 0x391c0cb3, 0x4ed8aa4a,
  0x5b9cca4f, 0x682e6ff3, 0x748f82ee, 0x78a5636f, 0x84c87814, 0x8cc70208, 0x90befffa, 0xa4506ceb, 0xbef9a3f7,
  0xc67178f2]

def startWords : List UInt32 :=
  [0x6a09e667, 0xbb67ae85, 0x3c6ef372, 0xa54ff53a, 0x510e527f, 0x9b05688c, 0x1f83d9ab, 0x5be0cd19]

def rotate (x : UInt32) (n : UInt32) : UInt32 := (x >>> n) ||| (x <<< (32 - n))

def wordOf (bytes : List UInt8) : UInt32 := bytes.foldl (fun w b => (w <<< 8) ||| b.toUInt32) 0

-- Consecutive pieces of `size` elements; a last piece may be shorter.
def pieces (size : Nat) : Nat → List α → List (List α)
  | 0, _ => []
  | fuel + 1, xs => if xs.isEmpty then [] else xs.take size :: pieces size fuel (xs.drop size)

def lengthBytes (n : Nat) : List UInt8 :=
  (List.range 8).map fun i => UInt8.ofNat (n / Nat.pow 256 (7 - i))

-- A one bit, zeros, and the length in bits.
def pad (message : List UInt8) : List UInt8 :=
  let zeros := (119 - message.length % 64) % 64
  message ++ 0x80 :: List.replicate zeros 0 ++ lengthBytes (message.length * 8)

-- The schedule is kept newest word first.
def extend : Nat → List UInt32 → List UInt32
  | 0, ws => ws
  | n + 1, ws =>
    let a := ws.getD 14 0
    let b := ws.getD 1 0
    let s0 := rotate a 7 ^^^ rotate a 18 ^^^ (a >>> 3)
    let s1 := rotate b 17 ^^^ rotate b 19 ^^^ (b >>> 10)
    extend n ((ws.getD 15 0 + s0 + ws.getD 6 0 + s1) :: ws)

def schedule (block : List UInt8) : List UInt32 :=
  (extend 48 ((pieces 4 16 block).map wordOf).reverse).reverse

structure Mix where
  a : UInt32
  b : UInt32
  c : UInt32
  d : UInt32
  e : UInt32
  f : UInt32
  g : UInt32
  h : UInt32

def Mix.ofWords (ws : List UInt32) : Mix :=
  ⟨ws.getD 0 0, ws.getD 1 0, ws.getD 2 0, ws.getD 3 0, ws.getD 4 0, ws.getD 5 0, ws.getD 6 0, ws.getD 7 0⟩

def Mix.words (m : Mix) : List UInt32 := [m.a, m.b, m.c, m.d, m.e, m.f, m.g, m.h]

def Mix.round (m : Mix) (k w : UInt32) : Mix :=
  let s1 := rotate m.e 6 ^^^ rotate m.e 11 ^^^ rotate m.e 25
  let choice := (m.e &&& m.f) ^^^ (~~~m.e &&& m.g)
  let t1 := m.h + s1 + choice + k + w
  let s0 := rotate m.a 2 ^^^ rotate m.a 13 ^^^ rotate m.a 22
  let majority := (m.a &&& m.b) ^^^ (m.a &&& m.c) ^^^ (m.b &&& m.c)
  ⟨t1 + (s0 + majority), m.a, m.b, m.c, m.d + t1, m.e, m.f, m.g⟩

def absorb (state : List UInt32) (block : List UInt8) : List UInt32 :=
  let mixed := (roundWords.zip (schedule block)).foldl (fun m kw => m.round kw.1 kw.2) (Mix.ofWords state)
  state.zipWith (· + ·) mixed.words

def sha256 (message : List UInt8) : List UInt32 :=
  let padded := pad message
  (pieces 64 padded.length padded).foldl absorb startWords

def hexWord (w : UInt32) : List Char :=
  (List.range 8).map fun i => Text.hexDigit (w.toNat / Nat.pow 16 (7 - i) % 16)

end Digest

-- The digest of a text's UTF-8 bytes in 64 lower case hexadecimal digits.
def digest (s : String) : String := String.ofList ((Digest.sha256 (Text.utf8 s)).flatMap Digest.hexWord)

end Harvester
