import TankDrive.Wire.Crc
/-!
# 速度指令の packet

制御基板へ送る 7 byte の packet：

`[0x2F, slave, speed_lo, speed_hi, state, crc_lo, crc_hi]`

速度は 16 bit の little endian で、`±1000` に飽和させてから書く。検査符号は前の 5 byte の
CRC-16/XMODEM を little endian で置く。基板が知っている slave は 0（左）と 1（右）だけで、
それ以外は packet を作る前に断る。

読む側（`Packet.ofBytes?`）は開始 byte、長さ、検査符号を確かめる。書いたものは読み戻せる
（`ofBytes?_bytes`）。
-/

namespace TankDrive.Wire

/-- packet の最初の byte。 -/
def commandStart : UInt8 := 0x2F

/-- 走行を指示する state byte。 -/
def driveState : UInt8 := 0x20

/-- 速度の絶対値の上限。 -/
def speedLimit : Int := 1000

/-- 基板が知っている slave の番号。 -/
def knownSlaves : List UInt8 := [0, 1]

/-- 速度を `±speedLimit` に収める。 -/
def saturate (speed : Int) : Int := max (-speedLimit) (min speedLimit speed)

/-- packet を作るときの誤り。 -/
inductive PacketError where
  | invalidSlave (id : UInt8)
deriving Repr, DecidableEq

/-- 誤りの文。 -/
def PacketError.message : PacketError → String
  | .invalidSlave id => "Invalid slave id " ++ toString id.toNat

/-- 速度指令。`speed` はすでに飽和させた値。 -/
structure Packet where
  slave : UInt8
  speed : Int
  state : UInt8
deriving Repr, DecidableEq

/-- little endian の 2 byte が表す 16 bit の値。 -/
def le16 (lo hi : UInt8) : Nat := lo.toNat + 256 * hi.toNat

/-- 16 bit の値を little endian の 2 byte にする。 -/
def le16Bytes (n : Nat) : UInt8 × UInt8 := (UInt8.ofNat (n % 256), UInt8.ofNat (n / 256))

/-- 2 byte にして読み戻すと、16 bit に収まる値は元に戻る。 -/
theorem le16_le16Bytes {n : Nat} (h : n < 65536) : le16 (le16Bytes n).1 (le16Bytes n).2 = n := by
  simp only [le16, le16Bytes, UInt8.toNat_ofNat']
  omega

/-- 16 bit の符号つき整数の little endian の 2 byte（2 の補数）。 -/
def speedBytes (speed : Int) : UInt8 × UInt8 := le16Bytes (speed % 65536).toNat

/-- 検査符号の前の 5 byte。 -/
def Packet.payload (p : Packet) : Bytes :=
  [commandStart, p.slave, (speedBytes p.speed).1, (speedBytes p.speed).2, p.state]

/-- 検査符号の値。 -/
def Packet.crc (p : Packet) : UInt16 := Wire.crc p.payload

/-- 線に載る 7 byte。 -/
def Packet.bytes (p : Packet) : Bytes :=
  p.payload ++ [(le16Bytes p.crc.toNat).1, (le16Bytes p.crc.toNat).2]

/-- slave を確かめ、速度を飽和させて packet を作る。 -/
def Packet.encode (slave : UInt8) (speed : Int) (state : UInt8) : Except PacketError Packet :=
  if slave ∈ knownSlaves then .ok ⟨slave, saturate speed, state⟩
  else .error (.invalidSlave slave)

/-- little endian の 2 byte を 16 bit の符号つき整数（2 の補数）として読む。 -/
def speedOfBytes (lo hi : UInt8) : Int :=
  let n := le16 lo hi
  if n < 32768 then n else (n : Int) - 65536

/-- 16 bit の符号つき整数に収まる速度は、2 byte にして読み戻すと元に戻る。 -/
theorem speedOfBytes_speedBytes {s : Int} (lo : -32768 ≤ s) (hi : s < 32768) :
    speedOfBytes (speedBytes s).1 (speedBytes s).2 = s := by
  have hn : (s % 65536).toNat < 65536 := by omega
  simp only [speedOfBytes, speedBytes, le16_le16Bytes hn]
  split <;> omega

/-- 7 byte を packet として読む。開始 byte、長さ、検査符号のどれかが違えば `none`。 -/
def Packet.ofBytes? : Bytes → Option Packet
  | [s, slave, lo, hi, state, c0, c1] =>
    if s = commandStart ∧ (Wire.crc [s, slave, lo, hi, state]).toNat = le16 c0 c1
    then some ⟨slave, speedOfBytes lo hi, state⟩ else none
  | _ => none

/-- 速度が 16 bit の符号つき整数に収まる packet は、線の 7 byte から読み戻せる。 -/
theorem Packet.ofBytes?_bytes (p : Packet) (lo : -32768 ≤ p.speed) (hi : p.speed < 32768) :
    Packet.ofBytes? p.bytes = some p := by
  have hc : p.crc.toNat < 65536 := UInt16.toNat_lt_size p.crc
  simp only [Packet.bytes, Packet.payload, List.cons_append, List.nil_append, Packet.ofBytes?]
  rw [if_pos ⟨trivial, (le16_le16Bytes hc).symm⟩, speedOfBytes_speedBytes lo hi]

/-- 飽和させた速度は `±speedLimit` に収まる。 -/
theorem saturate_bounds (speed : Int) : -speedLimit ≤ saturate speed ∧ saturate speed ≤ speedLimit := by
  simp only [saturate, speedLimit]
  omega

end TankDrive.Wire
