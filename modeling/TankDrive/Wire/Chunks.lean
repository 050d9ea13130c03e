import TankDrive.Wire.Crc
/-!
# byte 列を packet の長さごとに切る

書かれた byte 列を 7 byte ずつに切る。最後の一切れは短いことがある。
-/

namespace TankDrive.Wire

/-- `n` byte ずつに切る（`n = 0` なら一切れ）。 -/
def chunks (n : Nat) (data : Bytes) : List Bytes :=
  if h : n = 0 then (if data.isEmpty then [] else [data]) else go n h data data.length
where
  go (n : Nat) (h : n ≠ 0) (data : Bytes) : Nat → List Bytes
    | 0 => if data.isEmpty then [] else [data]
    | fuel + 1 => if data.isEmpty then [] else data.take n :: go n h (data.drop n) fuel

end TankDrive.Wire
