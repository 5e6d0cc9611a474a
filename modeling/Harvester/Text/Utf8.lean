import Harvester.Text.Blank
namespace Harvester.Text

def charBytes (c : Char) : List UInt8 :=
  let n := c.toNat
  if n < 0x80 then [UInt8.ofNat n]
  else if n < 0x800 then [UInt8.ofNat (0xC0 + n / 64), UInt8.ofNat (0x80 + n % 64)]
  else if n < 0x10000 then
    [UInt8.ofNat (0xE0 + n / 4096), UInt8.ofNat (0x80 + n / 64 % 64), UInt8.ofNat (0x80 + n % 64)]
  else
    [UInt8.ofNat (0xF0 + n / 262144), UInt8.ofNat (0x80 + n / 4096 % 64), UInt8.ofNat (0x80 + n / 64 % 64),
      UInt8.ofNat (0x80 + n % 64)]

def utf8 (s : String) : List UInt8 := s.toList.flatMap charBytes

-- What a first byte announces: the range its second byte must lie in, the bits it holds, and how many bytes follow.
structure Lead where
  low : Nat
  high : Nat
  bits : Nat
  follow : Nat

def lead? (b : Nat) : Option Lead :=
  if 0xC2 ≤ b ∧ b ≤ 0xDF then some ⟨0x80, 0xBF, b - 0xC0, 1⟩
  else if b = 0xE0 then some ⟨0xA0, 0xBF, 0, 2⟩
  else if 0xE1 ≤ b ∧ b ≤ 0xEC then some ⟨0x80, 0xBF, b - 0xE0, 2⟩
  else if b = 0xED then some ⟨0x80, 0x9F, 0xD, 2⟩
  else if 0xEE ≤ b ∧ b ≤ 0xEF then some ⟨0x80, 0xBF, b - 0xE0, 2⟩
  else if b = 0xF0 then some ⟨0x90, 0xBF, 0, 3⟩
  else if 0xF1 ≤ b ∧ b ≤ 0xF3 then some ⟨0x80, 0xBF, b - 0xF0, 3⟩
  else if b = 0xF4 then some ⟨0x80, 0x8F, 4, 3⟩
  else none

-- A character that is being put together: the range of the next byte, the bits so far, the bytes still to come.
abbrev Pending := Option Lead

def replacement : Char := Char.ofNat 0xFFFD

-- Invalid sequences become U+FFFD, one for each longest piece that could have begun a character.
def decodeFrom : Pending → List UInt8 → List Char
  | none, [] => []
  | some _, [] => [replacement]
  | none, b :: rest =>
    let n := b.toNat
    if n < 0x80 then Char.ofNat n :: decodeFrom none rest
    else match lead? n with
      | some next => decodeFrom (some next) rest
      | none => replacement :: decodeFrom none rest
  | some pending, b :: rest =>
    let n := b.toNat
    if pending.low ≤ n ∧ n ≤ pending.high then
      let bits := pending.bits * 64 + (n - 0x80)
      if pending.follow = 1 then Char.ofNat bits :: decodeFrom none rest
      else decodeFrom (some ⟨0x80, 0xBF, bits, pending.follow - 1⟩) rest
    else if n < 0x80 then replacement :: Char.ofNat n :: decodeFrom none rest
    else match lead? n with
      | some next => replacement :: decodeFrom (some next) rest
      | none => replacement :: replacement :: decodeFrom none rest

-- Units of two bytes. The first half of a surrogate pair waits for the second. Half a pair without the other becomes
-- U+FFFD, and so does what is left over at the end.
def decodeUnits (unit : UInt8 → UInt8 → Nat) : Option Nat → List UInt8 → List Char
  | none, [] => []
  | lead, a :: b :: rest =>
    let n := unit a b
    let stray := if lead.isSome then [replacement] else []
    if 0xD800 ≤ n ∧ n ≤ 0xDBFF then stray ++ decodeUnits unit (some n) rest
    else if 0xDC00 ≤ n ∧ n ≤ 0xDFFF then
      match lead with
      | some first =>
        Char.ofNat ((first - 0xD800) * 1024 + (n - 0xDC00) + 0x10000) :: decodeUnits unit none rest
      | none => replacement :: decodeUnits unit none rest
    else stray ++ Char.ofNat n :: decodeUnits unit none rest
  | _, _ => [replacement]

-- Body text. A byte order mark at the start tells how the bytes are meant and is dropped; without one they are UTF-8,
-- since nothing else is known of them.
def decodeBody (bytes : List UInt8) : String :=
  String.ofList <|
    match bytes with
    | 0xEF :: 0xBB :: 0xBF :: rest => decodeFrom none rest
    | 0xFF :: 0xFE :: rest => decodeUnits (fun low high => high.toNat * 256 + low.toNat) none rest
    | 0xFE :: 0xFF :: rest => decodeUnits (fun high low => high.toNat * 256 + low.toNat) none rest
    | _ => decodeFrom none bytes

end Harvester.Text
