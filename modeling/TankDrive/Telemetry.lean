import TankDrive.Wire.Crc
import TankDrive.Binary64.Basic
/-!
# 電池電圧の telemetry

基板は `0xCD 0xAB` で始まる 15 byte 以上の frame を返す。frame の 5 byte 目からの
16 bit little endian が電圧の 1/100 V 単位の値である。

## 一つの buffer から（`voltage?`）

最初の印を探し、そこから 15 byte 以上あれば電圧を読む。

## 少しずつ届く byte から（`Extractor`）

届いた byte を `pending` に足し、最初の印から 15 byte 以上あればその frame を読んで
消費する。残りのうち、最後の印から始まる未完の frame（15 byte 未満）か、最後の byte が
印の前半 `0xCD` ならそれだけを次へ持ち越し、その前は捨てる。捨てた数は記録に残す。

持ち越すのは空、`[0xCD]`、または `0xCD 0xAB` で始まる 2 〜 14 byte のどれかになる。
-/

namespace TankDrive.Telemetry

open Wire

/-- frame の最小の長さ。 -/
def frameLength : Nat := 15

/-- 電圧の値の位置。 -/
def voltageOffset : Nat := 5

/-- 印の前半。 -/
def markerHead : UInt8 := 0xCD

/-- 印の後半。 -/
def markerTail : UInt8 := 0xAB

/-- 印 `0xCD 0xAB` が最初に現れる位置。 -/
def findMarker : Bytes → Option Nat
  | a :: b :: rest =>
    if a = markerHead ∧ b = markerTail then some 0 else (findMarker (b :: rest)).map (· + 1)
  | _ => none

/-- 印が最後に現れる位置。 -/
def findLastMarker : Bytes → Option Nat
  | a :: b :: rest =>
    match findLastMarker (b :: rest) with
    | some i => some (i + 1)
    | none => if a = markerHead ∧ b = markerTail then some 0 else none
  | _ => none

/-- 1 V あたりの単位数。 -/
def unitsPerVolt : Float := Binary64.ofNat 100

/-- frame の先頭からの電圧。frame が短ければ `none`。 -/
def frameVoltage? (frame : Bytes) : Option Float :=
  if frame.length < frameLength then none else
  let lo := (frame.getD voltageOffset 0).toNat
  let hi := (frame.getD (voltageOffset + 1) 0).toNat
  some (Binary64.ofNat (lo + 256 * hi) / unitsPerVolt)

/-- buffer の最初の印から電圧を読む。 -/
def voltage? (buffer : Bytes) : Option Float :=
  match findMarker buffer with
  | some start => frameVoltage? (buffer.drop start)
  | none => none

/-- 少しずつ届く byte から frame を切り出す。 -/
structure Extractor where
  pending : Bytes := []
deriving Repr, DecidableEq, Inhabited

/-- 一回の `feed` の結果。 -/
structure Fed where
  next : Extractor
  voltage : Option Float
  /-- 捨てた byte の数（読んだ frame の分は数えない）。 -/
  discarded : Nat

/-- 読み取った frame の終わりまでの長さと電圧。完全な frame がなければ `(0, none)`。 -/
def takeFrame (buf : Bytes) : Nat × Option Float :=
  match findMarker buf with
  | some start =>
    if frameLength ≤ buf.length - start then (start + frameLength, voltage? (buf.drop start))
    else (0, none)
  | none => (0, none)

/-- 残り `rest` のうち持ち越す部分の始まり（`rest` の中の位置）。 -/
def keepFrom (rest : Bytes) : Nat :=
  match findLastMarker rest with
  | some last =>
    if rest.length - last < frameLength then last
    else if rest.getLast? = some markerHead then rest.length - 1 else rest.length
  | none => if rest.getLast? = some markerHead then rest.length - 1 else rest.length

/-- byte を足し、完全な frame があれば電圧を読む。 -/
def Extractor.feed (x : Extractor) (bytes : Bytes) : Fed :=
  let buf := x.pending ++ bytes
  let (consumed, v) := takeFrame buf
  let rest := buf.drop consumed
  let keep := keepFrom rest
  { next := ⟨rest.drop keep⟩, voltage := v, discarded := keep }

end TankDrive.Telemetry
