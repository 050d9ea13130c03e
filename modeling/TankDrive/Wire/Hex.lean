import TankDrive.Wire.Crc
/-!
# byte 列の 16 進表記

byte 一つを 16 進 2 桁で書く。書くときは小文字、読むときは大文字も受ける。
記録に残す形（`[2F, 00, F4]`）もここに置く。
-/

namespace TankDrive.Wire.Hex

/-- 16 進の 1 桁（小文字）。 -/
def lowerDigit (n : Nat) : Char :=
  if n < 10 then Char.ofNat (0x30 + n) else Char.ofNat (0x61 + n - 10)

/-- 16 進の 1 桁（大文字）。 -/
def upperDigit (n : Nat) : Char :=
  if n < 10 then Char.ofNat (0x30 + n) else Char.ofNat (0x41 + n - 10)

/-- 16 進の文字の値。大文字も受ける。 -/
def digitValue (c : Char) : Option Nat :=
  let n := c.toNat
  if 0x30 ≤ n ∧ n ≤ 0x39 then some (n - 0x30)
  else if 0x61 ≤ n ∧ n ≤ 0x66 then some (n - 0x61 + 10)
  else if 0x41 ≤ n ∧ n ≤ 0x46 then some (n - 0x41 + 10)
  else none

/-- byte 列を小文字の 16 進で書く。 -/
def encode (data : Bytes) : String :=
  String.ofList (data.flatMap fun b => [lowerDigit (b.toNat / 16), lowerDigit (b.toNat % 16)])

/-- 16 進を読むときの誤り。 -/
inductive Error where
  | oddLength
  | badDigit (c : Char)
deriving Repr, DecidableEq

/-- 誤りの文。 -/
def Error.message : Error → String
  | .oddLength => "odd hex length"
  | .badDigit c => "invalid hex digit " ++ (String.singleton c).quote

/-- 文字の列を 2 桁ずつ読む。 -/
def decodeChars : List Char → Except Error Bytes
  | [] => .ok []
  | [_] => .error .oddLength
  | a :: b :: rest =>
    match digitValue a, digitValue b with
    | some x, some y => (decodeChars rest).map (UInt8.ofNat (16 * x + y) :: ·)
    | none, _ => .error (.badDigit a)
    | _, none => .error (.badDigit b)

/-- 16 進の文字列を byte 列に読む。長さが奇数なら誤り。 -/
def decode (s : String) : Except Error Bytes :=
  if s.length % 2 = 1 then .error .oddLength else decodeChars s.toList

/-- byte を大文字 2 桁で書く。 -/
def upperByte (b : UInt8) : String :=
  String.ofList [upperDigit (b.toNat / 16), upperDigit (b.toNat % 16)]

/-- byte 列を `[2F, 00, F4]` の形で書く。 -/
def bracketed (data : Bytes) : String :=
  "[" ++ ", ".intercalate (data.map upperByte) ++ "]"

end TankDrive.Wire.Hex
