import TankDrive.Binary64.Basic
/-!
# 10 進の浮動小数点数の文字列を読む

`[+-]` に続いて、`inf`、`infinity`、`nan`（大文字小文字を問わない）か、10 進の数
（数字、`.` と数字、指数 `e` と符号と数字。仮数に数字が一つはいる）。値は最も近い binary64。
空白や区切りの `_` は受けない。
-/

namespace TankDrive.Decimal

/-- 数字だけの列の値。 -/
def digitsValue (ds : List Char) : Nat :=
  ds.foldl (fun n c => 10 * n + (c.toNat - 0x30)) 0

/-- 符号のない 10 進の数を読む。 -/
def readUnsigned (neg : Bool) (cs : List Char) : Option Float :=
  let intPart := cs.takeWhile Char.isDigit
  let rest := cs.dropWhile Char.isDigit
  let (frac, rest) := match rest with
    | '.' :: r => (r.takeWhile Char.isDigit, r.dropWhile Char.isDigit)
    | r => ([], r)
  if intPart.isEmpty && frac.isEmpty then none else
  let mant := digitsValue (intPart ++ frac)
  let shift : Int := -(frac.length : Int)
  let expo : Option Int := match rest with
    | [] => some 0
    | e :: r =>
      if e = 'e' ∨ e = 'E' then
        let (sign, ds) : Int × List Char := match r with
          | '+' :: d => (1, d)
          | '-' :: d => (-1, d)
          | d => (1, d)
        if !ds.isEmpty && ds.all Char.isDigit then some (sign * (digitsValue ds : Int)) else none
      else none
  expo.map fun x =>
    let e := shift + x
    if mant = 0 then (if neg then -0.0 else 0.0)
    else
      let lead := e + (toString mant).length - 1
      if 400 < lead then (if neg then -Binary64.infinity else Binary64.infinity)
      else if lead < -400 then (if neg then -0.0 else 0.0)
      else Binary64.ofDecimal neg mant e

/-- 浮動小数点数の文字列を読む。 -/
def parseFloat? (s : String) : Option Float :=
  let (neg, cs) : Bool × List Char := match s.toList with
    | '+' :: r => (false, r)
    | '-' :: r => (true, r)
    | r => (false, r)
  let word := (String.ofList cs).toLower
  if word = "inf" ∨ word = "infinity" then
    some (if neg then -Binary64.infinity else Binary64.infinity)
  else if word = "nan" then some Binary64.nan
  else readUnsigned neg cs

end TankDrive.Decimal
