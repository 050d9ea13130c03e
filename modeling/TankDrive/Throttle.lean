import TankDrive.Binary64.Integer
import TankDrive.Decimal.Notation
/-!
# スロットルから出力へ

`[-1, 1]` のスロットルを、片側の出力の範囲 `[min, max]` へ中立点 `neutral` を挟んで
折れ線で写す。範囲外のスロットルは端に寄せる。`1` と `-1` はちょうど `max` と `min` に、
`0` はちょうど `neutral` に写る。演算は binary64 のままで、順序も式の形も変えない
（丸めの結果が変わるので）。

出力を基板の速度にするときは、最も近い整数に丸め（中間は 0 から遠い側）、16 bit の
符号つき整数の範囲に飽和させる。

範囲は有限で `min ≤ neutral ≤ max` のときに正しい（`Range.check`）。写すときには確かめない
ので、無限大や NaN の範囲ではその演算の結果がそのまま出る。
-/

namespace TankDrive.Throttle

/-- スロットルの誤り。 -/
inductive Error where
  | notANumber
  | invalidRange (min neutral max : Float)

/-- 誤りの文。数は位取りで最短に書く。 -/
def Error.message : Error → String
  | .notANumber => "Throttle is NaN"
  | .invalidRange lo mid hi =>
    "Invalid throttle range: min=" ++ Decimal.Notation.plain.render lo ++ ", neutral=" ++
      Decimal.Notation.plain.render mid ++ ", max=" ++ Decimal.Notation.plain.render hi

/-- 片側の出力の範囲。 -/
structure Range where
  min : Float
  neutral : Float
  max : Float

/-- 0 を中立点に、`±m` を端にした範囲。 -/
def Range.symmetric (m : Float) : Range := ⟨-m, 0.0, m⟩

/-- 既定の範囲：速度 `±1000`。 -/
def Range.default : Range := Range.symmetric 1000.0

instance : Inhabited Range := ⟨Range.default⟩

/-- 範囲が有限で順序どおりか確かめる。そうなら写像は単調になる。 -/
def Range.check (r : Range) : Except Error Unit :=
  let finite := r.min.isFinite && r.neutral.isFinite && r.max.isFinite
  if !finite || r.neutral < r.min || r.max < r.neutral then
    .error (.invalidRange r.min r.neutral r.max)
  else .ok ()

/-- スロットルを `[-1, 1]` に寄せる。`-0.0` はそのまま。 -/
def clampUnit (t : Float) : Float :=
  if t < -1.0 then -1.0 else if 1.0 < t then 1.0 else t

/-- スロットルを範囲へ写す。NaN は断る。 -/
def Range.apply (r : Range) (throttle : Float) : Except Error Float :=
  if throttle.isNaN then .error .notANumber else
  let t := clampUnit throttle
  if t == 1.0 then .ok r.max
  else if t == -1.0 then .ok r.min
  else if 0.0 ≤ t then .ok (r.neutral + (r.max - r.neutral) * t)
  else .ok (r.neutral + (r.neutral - r.min) * t)

/-- スロットルを基板の速度にする：写して、丸めて、16 bit に飽和させる。 -/
def Range.speed (r : Range) (throttle : Float) : Except Error Int :=
  (r.apply throttle).map Binary64.toInt16

end TankDrive.Throttle
