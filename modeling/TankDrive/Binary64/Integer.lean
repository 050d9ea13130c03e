import TankDrive.Binary64.Basic
/-!
# binary64 から整数へ

値を最も近い整数に丸め（ちょうど中間なら 0 から遠い側）、整数型の範囲に飽和させる。
NaN は 0 になり、無限大は範囲の端になる。浮動小数点の丸めを経ずに、仮数と指数から
直接求めるので、どの値でも正確である。
-/

namespace TankDrive.Binary64

/-- `m · 2^e` の絶対値を、ちょうど中間なら上へ丸めた自然数。 -/
def roundMagnitude (m : Nat) (e : Int) : Nat :=
  if 0 ≤ e then m * Nat.pow 2 e.toNat
  else
    let d := Nat.pow 2 (-e).toNat
    m / d + (if d ≤ 2 * (m % d) then 1 else 0)

/-- 整数を `[lo, hi]` に収める。 -/
def clampInt (lo hi : Int) (n : Int) : Int := max lo (min hi n)

/-- 丸めて `[lo, hi]` に飽和させる。NaN は 0、`+∞` は `hi`、`-∞` は `lo`。 -/
def roundSaturate (lo hi : Int) (x : Float) : Int :=
  match parts x with
  | .nan => 0
  | .infinite neg => if neg then lo else hi
  | .finite neg m e =>
    let r : Int := roundMagnitude m e
    clampInt lo hi (if neg then -r else r)

/-- 16 bit の符号つき整数の範囲へ丸める。 -/
def toInt16 (x : Float) : Int := roundSaturate (-32768) 32767 x

end TankDrive.Binary64
