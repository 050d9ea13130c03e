/-!
# CRC-16/XMODEM

指令の packet を守る 16 bit の検査符号。生成多項式は `x^16 + x^12 + x^5 + 1`
（最上位を除いて `0x1021`）、初期値 0、各 byte を上位の bit から入れ、反転も最後の xor もしない。

剰余を 1 bit 進める `shift` を 8 回重ねたものが 1 byte 分で、`crc` はそれを byte 列に畳み込む。
-/

namespace TankDrive.Wire

/-- byte の列。 -/
abbrev Bytes := List UInt8

/-- 生成多項式から `x^16` を除いた部分。 -/
def crcPoly : UInt16 := 0x1021

/-- 剰余に `x` を掛けて、`x^16` が出たら多項式で割る。 -/
def shift (c : UInt16) : UInt16 :=
  if c &&& 0x8000 != 0 then (c <<< 1) ^^^ crcPoly else c <<< 1

/-- `shift` を `n` 回。 -/
def shifts : Nat → UInt16 → UInt16
  | 0, c => c
  | n + 1, c => shift (shifts n c)

/-- 1 byte を上位の 8 bit に入れて 8 回進める。 -/
def crcStep (c : UInt16) (b : UInt8) : UInt16 :=
  shifts 8 (c ^^^ (b.toUInt16 <<< 8))

/-- byte 列の検査符号。 -/
def crc (data : Bytes) : UInt16 := data.foldl crcStep 0

@[simp] theorem crc_nil : crc [] = 0 := rfl

theorem crc_append (a b : Bytes) : crc (a ++ b) = b.foldl crcStep (crc a) := by
  simp [crc, List.foldl_append]

end TankDrive.Wire
