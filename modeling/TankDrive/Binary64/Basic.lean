/-!
# binary64 の成分と丸め

IEEE 754 binary64 の bit pattern を符号・仮数・指数に分け（`Float.toBits` は論理の中にある）、
逆向きには正の有理数 `num / den` を最も近い binary64 に丸めて bit pattern を組む。
同じ距離なら仮数が偶数の側をとる。10 進の読み取りも整数からの変換もこの一つの丸めを通るので、
二重丸めは起こらない。有限値どうしの掛け算と割り算も、正確な有理数の積と商をこの丸めに
通して表す。

## 停止性

再帰はない。指数の見積もりは `Nat.log2` の差で、ずれは一度の補正で直る。
-/

namespace TankDrive.Binary64

/-- binary64 の値の形。有限値は `(-1)^neg · mant · 2^exp` で、`mant < 2^53`。 -/
inductive Parts where
  | nan
  | infinite (neg : Bool)
  | finite (neg : Bool) (mant : Nat) (exp : Int)
deriving Repr, DecidableEq, Inhabited

/-- bit pattern を読む。指数部が全部 1 なら無限大か NaN、0 なら非正規化数。 -/
def parts (x : Float) : Parts :=
  let b := x.toBits.toNat
  let neg := decide (Nat.pow 2 63 ≤ b)
  let biased : Nat := b / Nat.pow 2 52 % Nat.pow 2 11
  let frac : Nat := b % Nat.pow 2 52
  if biased = 2047 then (if frac = 0 then .infinite neg else .nan)
  else if biased = 0 then .finite neg frac (-1074)
  else .finite neg (frac + Nat.pow 2 52) ((biased : Int) - 1075)

/-- 符号 bit を読む。`-0.0` と負の NaN でも立つ。 -/
def signBit (x : Float) : Bool := decide (Nat.pow 2 63 ≤ x.toBits.toNat)

/-- `num / den` を、`2^52 ≤ q < 2^53`（非正規化域では `q < 2^52`、指数 `-1074`）の
仮数 `q` と指数 `e` に最近接偶数で丸める。`num = 0` なら `(0, -1074)`。 -/
def roundRatio (num den : Nat) : Nat × Int :=
  if num = 0 then (0, -1074) else
  -- 2 進の桁数の差から、`num · 2^s / den` が 53 桁になる `s` を見積もる
  let b : Int := (num.log2 : Int) - (den.log2 : Int)
  let scaled (s : Int) : Nat × Nat :=
    if 0 ≤ s then (num * Nat.pow 2 s.toNat, den) else (num, den * Nat.pow 2 (-s).toNat)
  let s0 : Int := 52 - b
  let s1 : Int := if (scaled s0).1 / (scaled s0).2 < Nat.pow 2 52 then s0 + 1 else s0
  let s : Int := if 1074 < s1 then 1074 else s1
  let (n, d) := scaled s
  let q := n / d
  let r := n % d
  let q' := if d < 2 * r ∨ (2 * r = d ∧ q % 2 = 1) then q + 1 else q
  if q' = Nat.pow 2 53 then (Nat.pow 2 52, -s + 1) else (q', -s)

/-- 仮数と指数（`roundRatio` の形）から bit pattern を組む。指数が大きすぎれば無限大。 -/
def ofRounded (neg : Bool) (q : Nat) (e : Int) : Float :=
  let sign : Nat := if neg then Nat.pow 2 63 else 0
  if q < Nat.pow 2 52 then Float.ofBits (UInt64.ofNat (sign + q))
  else if 971 < e then Float.ofBits (UInt64.ofNat (sign + 2047 * Nat.pow 2 52))
  else Float.ofBits (UInt64.ofNat (sign + (e + 1075).toNat * Nat.pow 2 52 + (q - Nat.pow 2 52)))

/-- 符号つきの有理数 `±num / den` に最も近い binary64。 -/
def ofRatio (neg : Bool) (num den : Nat) : Float :=
  let (q, e) := roundRatio num den
  ofRounded neg q e

/-- 10 進の `±digits · 10^exp` に最も近い binary64。 -/
def ofDecimal (neg : Bool) (digits : Nat) (exp : Int) : Float :=
  if 0 ≤ exp then ofRatio neg (digits * Nat.pow 10 exp.toNat) 1
  else ofRatio neg digits (Nat.pow 10 (-exp).toNat)

/-- 自然数に最も近い binary64。 -/
def ofNat (n : Nat) : Float := ofRatio false n 1

/-- 整数に最も近い binary64。`0` は `+0.0`。 -/
def ofInt (n : Int) : Float := ofRatio (decide (n < 0)) n.natAbs 1

/-- 正の無限大。 -/
def infinity : Float := Float.ofBits 0x7FF0000000000000

/-- 静かな NaN。 -/
def nan : Float := Float.ofBits 0x7FF8000000000000

/-- 有限値の絶対値を有理数 `(num, den)` で表す。無限大と NaN は `none`。 -/
def magnitude (x : Float) : Option (Nat × Nat) :=
  match parts x with
  | .finite _ m e =>
    some (if 0 ≤ e then (m * Nat.pow 2 e.toNat, 1) else (m, Nat.pow 2 (-e).toNat))
  | _ => none

/-- 有限値の絶対値の積を、符号 `neg` をつけて丸めたもの。どちらかが有限でなければ NaN。
積は一度だけ丸めるので、binary64 の掛け算と同じ値になる。 -/
def mulAbs (neg : Bool) (x y : Float) : Float :=
  match magnitude x, magnitude y with
  | some (a, b), some (c, d) => ofRatio neg (a * c) (b * d)
  | _, _ => nan

/-- 有限値の絶対値の商を、符号 `neg` をつけて丸めたもの。`y` が 0 か、どちらかが有限で
なければ NaN。 -/
def divAbs (neg : Bool) (x y : Float) : Float :=
  match magnitude x, magnitude y with
  | some (a, b), some (c, d) => if c = 0 then nan else ofRatio neg (a * d) (b * c)
  | _, _ => nan

end TankDrive.Binary64
