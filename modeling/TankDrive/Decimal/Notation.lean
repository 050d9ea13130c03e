import TankDrive.Decimal.Shortest
/-!
# 浮動小数点数の書き方

最短の 10 進表記（`Decimal.Shortest`）を文字にする規則を、一つの記録 `Notation` にまとめる。
書き方の違いは、位取りで書く先頭桁の指数の範囲、整数値に `.0` をつけるか、指数の正符号を
書くか、最短の候補が二つ値から同じ距離にあるときにどちらをとるか、の四つしかない。
ここに三つの書き方を置く。

* `Notation.json` — JSON の数。先頭桁の指数が `-5` 以上 `16` 未満なら位取り、整数値は `.0` つき、
  それ以外は `1e-6`、`1e+16` の形。同じ距離なら最後の桁が偶数の方。
* `Notation.plain` — 文章に埋め込む数。常に位取りで、整数値は `10` のように点を書かない。
  同じ距離なら大きい方（`2^-25` は `0.000000029802322387695313`）。
* `Notation.debug` — 値の記録。`1e-4` 以上 `1e16` 未満は位取りで `.0` つき、それ以外は `1e16`、
  `1e-5` の形。同じ距離なら大きい方。

小数点以下の桁数を決めた書き方（`fixed`）は最短の表記を使わず、値そのものを丸める。
-/

namespace TankDrive.Decimal

/-- 有限の値を書く規則。 -/
structure Notation where
  /-- 位取りで書く先頭桁の指数の範囲 `[lo, hi)`。`none` なら常に位取り。 -/
  positional : Option (Int × Int)
  /-- 整数値を位取りで書くとき `.0` をつける。 -/
  pointZero : Bool
  /-- 指数が正のとき `+` を書く。 -/
  plusExponent : Bool
  /-- 最短の候補が同じ距離に二つあるときの選び方。 -/
  tie : Tie

/-- JSON の数の書き方。 -/
def Notation.json : Notation := ⟨some (-5, 16), true, true, .even⟩

/-- 文章に埋め込む数の書き方。 -/
def Notation.plain : Notation := ⟨none, false, false, .up⟩

/-- 値の記録に使う書き方。 -/
def Notation.debug : Notation := ⟨some (-4, 16), true, false, .up⟩

/-- `n` 個の `0`。 -/
def zeros (n : Nat) : String := String.ofList (List.replicate n '0')

/-- 最短表記を位取りで書く（符号なし）。 -/
def positionalText (nt : Notation) (s : Scientific) : String :=
  let ds := s.digitString
  if 0 ≤ s.exp then
    ds ++ zeros s.exp.toNat ++ (if nt.pointZero then ".0" else "")
  else
    let k := s.lead
    if 0 ≤ k then
      let cut := (k + 1).toNat
      String.ofList (ds.toList.take cut) ++ "." ++ String.ofList (ds.toList.drop cut)
    else
      "0." ++ zeros (-k - 1).toNat ++ ds

/-- 最短表記を指数つきで書く（符号なし）。 -/
def exponentText (nt : Notation) (s : Scientific) : String :=
  let ds := s.digitString.toList
  let mant := match ds with
    | [] => "0"
    | [c] => String.singleton c
    | c :: rest => String.singleton c ++ "." ++ String.ofList rest
  let k := s.lead
  let sign := if k < 0 then "-" else if nt.plusExponent then "+" else ""
  mant ++ "e" ++ sign ++ toString k.natAbs

/-- 符号なしの最短表記を、規則に従って位取りか指数つきで書く。 -/
def Notation.scientific (nt : Notation) (s : Scientific) : String :=
  match nt.positional with
  | none => positionalText nt s
  | some (lo, hi) =>
    if lo ≤ s.lead ∧ s.lead < hi then positionalText nt s else exponentText nt s

/-- 有限の値の書き方。`neg` は符号 bit で、`-0.0` にも `-` がつく。 -/
def Notation.finite (nt : Notation) (neg : Bool) (m : Nat) (e : Int) : String :=
  let body :=
    if m = 0 then (if nt.pointZero then "0.0" else "0")
    else nt.scientific (shortest nt.tie m e)
  (if neg then "-" else "") ++ body

/-- 値を書く。NaN は `NaN`、無限大は `inf` と `-inf`。 -/
def Notation.render (nt : Notation) (x : Float) : String :=
  match Binary64.parts x with
  | .nan => "NaN"
  | .infinite neg => if neg then "-inf" else "inf"
  | .finite neg m e => nt.finite neg m e

/-- `num / den` を最も近い整数に丸める。ちょうど中間なら偶数の側。 -/
def roundHalfEven (num den : Nat) : Nat :=
  let q := num / den
  let r := num % den
  if den < 2 * r ∨ (2 * r = den ∧ q % 2 = 1) then q + 1 else q

/-- 小数点以下 `places` 桁で書く。値そのものを丸め、ちょうど中間なら偶数の側。
負の値は 0 に丸まっても `-` を残す。 -/
def fixed (places : Nat) (x : Float) : String :=
  match Binary64.parts x with
  | .nan => "NaN"
  | .infinite neg => if neg then "-inf" else "inf"
  | .finite neg m e =>
    let n := roundHalfEven (m * Nat.pow 2 e.toNat * Nat.pow 10 places) (Nat.pow 2 (-e).toNat)
    let ds := toString n
    let ds := zeros (places + 1 - ds.length) ++ ds
    let cut := ds.length - places
    let body := if places = 0 then ds
      else String.ofList (ds.toList.take cut) ++ "." ++ String.ofList (ds.toList.drop cut)
    (if neg then "-" else "") ++ body

end TankDrive.Decimal
