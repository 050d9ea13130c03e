import TankDrive.Binary64.Basic
/-!
# 読み戻せる最短の 10 進表記

有限で 0 でない binary64 `m · 2^e` について、最近接偶数で読み戻すとその値に戻る
10 進数 `D · 10^j` のうち、有効桁が最も少なく、その中で値に最も近いものを選ぶ。
最も近いものが二つあるとき（値がちょうど二点の中点のとき）の選び方は `Tie` で決める。

## 仕組み

値に丸められる実数の区間は、隣の binary64 との中点で挟まれる（仮数が偶数なら端を含む）。
`4m`、`4m ± 2` を `2^(e-2)` 倍すると値と区間の端になる。仮数が `2^52` で指数が最小でない
ときだけ、下の隣が近いので下端は `4m - 1` になる。

`10^j` の格子を粗い方から細かい方へ見ていき、区間に格子点が初めて入った `j` で止まる。
そこで区間に入る格子点のうち値に最も近いのは、値を挟む二点 `D0 = ⌊v / 10^j⌋` と `D0 + 1`
のどちらかである。二点が同じ距離なら `Tie` に従う。

粗い格子に点がなければ、細かい格子の点は有効桁が減らない
（二点の間にある 10 の冪が区間に入り、粗い格子の点になってしまうから）。

## 停止性

格子の指数は値の桁の見積もりの少し上から始め、`fuel` 回（25 回）だけ下げる。
binary64 は 17 桁あれば必ず読み戻せるので、その前に止まる。
-/

namespace TankDrive.Decimal

/-- 最短の表記の候補が二つ、値からちょうど同じ距離にあるときの選び方。 -/
inductive Tie where
  /-- 最後の桁が偶数の方。 -/
  | even
  /-- 大きい方。 -/
  | up
deriving Repr, DecidableEq, Inhabited

/-- 10 進の有限表記 `digits · 10^exp`。`digits` は 10 で割り切れない（0 のときを除く）。 -/
structure Scientific where
  digits : Nat
  exp : Int
deriving Repr, DecidableEq, Inhabited

namespace Scientific

/-- 末尾の 0 を指数へ移す。0 の個数は `d` の桁数を超えないので `fuel = d` で足りる。 -/
def stripZeros (d : Nat) (j : Int) : Nat → Scientific
  | 0 => ⟨d, j⟩
  | fuel + 1 => if d ≠ 0 ∧ d % 10 = 0 then stripZeros (d / 10) (j + 1) fuel else ⟨d, j⟩

/-- `digits · 10^exp` を、末尾に 0 のない形にする。 -/
def normalize (d : Nat) (j : Int) : Scientific := stripZeros d j d

/-- 有効桁の文字列。 -/
def digitString (s : Scientific) : String := toString s.digits

/-- 有効桁の数。 -/
def length (s : Scientific) : Nat := s.digitString.length

/-- 先頭の桁の指数。`digits · 10^exp` は `10^lead ≤ · < 10^(lead+1)`。 -/
def lead (s : Scientific) : Int := (s.length : Int) - 1 + s.exp

end Scientific

/-- `a · 10^i` と `b · 2^f` を比べる。両辺に正の冪を掛けて自然数の比較にする。 -/
def cmpScaled (a : Nat) (i : Int) (b : Nat) (f : Int) : Ordering :=
  let lhs := a * Nat.pow 10 i.toNat * Nat.pow 2 (-f).toNat
  let rhs := b * Nat.pow 2 f.toNat * Nat.pow 10 (-i).toNat
  compare lhs rhs

/-- `⌊b · 2^f / 10^i⌋`。 -/
def floorScaled (b : Nat) (f : Int) (i : Int) : Nat :=
  (b * Nat.pow 2 f.toNat * Nat.pow 10 (-i).toNat) / (Nat.pow 2 (-f).toNat * Nat.pow 10 i.toNat)

/-- 区間の端の比較。`inclusive` なら等号も区間の中。 -/
def within (o : Ordering) (inclusive : Bool) : Bool :=
  o == .lt || (inclusive && o == .eq)

/-- 格子 `10^j` の上で区間 `[lo, hi] · 2^f` に入り、値 `v · 2^f` に最も近い点。 -/
def gridHit (tie : Tie) (v lo hi : Nat) (f : Int) (inclusive : Bool) (j : Int) : Option Nat :=
  let d0 := floorScaled v f j
  let d1 := d0 + 1
  let ok0 := d0 != 0 && within (cmpScaled d0 j lo f).swap inclusive
  let ok1 := within (cmpScaled d1 j hi f) inclusive
  if ok0 && ok1 then
    -- 二点の中点 `(2·d0 + 1) · 10^j` と `2v` を比べる
    match cmpScaled (2 * d0 + 1) j (2 * v) f with
    | .gt => some d0
    | .lt => some d1
    | .eq =>
      match tie with
      | .even => some (if d0 % 2 = 0 then d0 else d1)
      | .up => some d1
  else if ok0 then some d0
  else if ok1 then some d1
  else none

/-- 格子を `j` から細かい方へ `fuel` 段だけ探す。 -/
def search (tie : Tie) (v lo hi : Nat) (f : Int) (inclusive : Bool) : Nat → Int → Option Scientific
  | 0, _ => none
  | fuel + 1, j =>
    match gridHit tie v lo hi f inclusive j with
    | some d => some (Scientific.normalize d j)
    | none => search tie v lo hi f inclusive fuel (j - 1)

/-- 仮数 `m > 0` と指数 `e` の値を読み戻せる最短の 10 進表記。 -/
def shortest (tie : Tie) (m : Nat) (e : Int) : Scientific :=
  let asym := m = Nat.pow 2 52 ∧ -1074 < e
  let lo := if asym then 4 * m - 1 else 4 * m - 2
  let hi := 4 * m + 2
  let f := e - 2
  -- 先頭の桁の指数の見積もり（`log10 2 ≈ 0.30103`）。少し上から探し始める。
  let bits : Int := (m.log2 : Int) + e
  let start : Int := bits * 30103 / 100000 + 2
  match search tie (4 * m) lo hi f (m % 2 == 0) 25 start with
  | some s => s
  | none => Scientific.normalize (floorScaled (4 * m) f 0) 0

end TankDrive.Decimal
