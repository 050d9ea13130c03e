import TankDrive.Json.Error
/-!
# JSON の読み取りの位置と、字句の読み取り

`Cursor` は残りの入力と、そこまでの行・列、入れ子の残りの深さ、数の変換の方法、文字列の出どころを持つ。列は行の先頭からの
byte 数で、改行で 0 に戻る。誤りの位置は二通りある：読み終えたところ（`position`）と、
次の 1 byte を読んだところ（`peekPosition`）。どちらを使うかは誤りの種類ごとに決まっている。
思わぬ文字に出会った誤りは、その文字の最初の 1 byte だけを読んだ位置を持つ。読み取りは
byte ごとに進み、ASCII でない文字も 1 byte 目で違うと分かるからである。

`Reader` は `Cursor` の状態と誤りを持つ計算で、誤りが出ても状態は残る。値の読み取りが
誤りで終わった後にも閉じ括弧を探すので、そのときの位置が位置のない誤りに与えられる。

ここには字句の単位（空白、識別子 `null` `true` `false`、文字列、数）を読む関数を置く。

## 停止性

繰り返しはどれも 1 回に 1 文字以上を読むので、残りの入力の長さを `fuel` にする。
-/

namespace TankDrive.Json

/-- 小数や指数のある数を binary64 にする方法。 -/
inductive Conversion where
  /-- 10 進の値に最も近い binary64。有効数字は `significantDigits` 桁まで読む。 -/
  | nearest
  /-- 仮数を `2^64` 未満に収まる桁まで読んで binary64 にし、`10^k` の binary64 を掛けるか
  割る。丸めが二度起こるので、最も近い binary64 とは最後の bit が違うことがある。 -/
  | scaled
deriving Repr, DecidableEq, Inhabited

/-- 読む文字列の出どころ。 -/
inductive Origin where
  /-- 書かれたままの文字列。 -/
  | text
  /-- 読み終えた JSON の値を書き出した文字列。配列の形の record に要素が余ると、閉じ括弧の
  誤りではなく、要素の総数の誤りになる。 -/
  | value
deriving Repr, DecidableEq, Inhabited

/-- 読み取りの状態。 -/
structure Cursor where
  rest : List Char
  line : Nat
  column : Nat
  /-- 入れ子にできる残りの深さ。 -/
  depth : Nat
  /-- 数を binary64 にする方法。 -/
  conversion : Conversion
  /-- 文字列の出どころ。 -/
  origin : Origin

/-- 文字列の始めの状態。入れ子は 128 段まで。 -/
def Cursor.start (conversion : Conversion) (origin : Origin) (s : String) : Cursor :=
  ⟨s.toList, 1, 0, 128, conversion, origin⟩

/-- 読み終えたところの位置。 -/
def Cursor.position (c : Cursor) : Position := ⟨c.line, c.column⟩

/-- 次の 1 byte を読んだところの位置。入力の終わりではそのまま。 -/
def Cursor.peekPosition (c : Cursor) : Position :=
  match c.rest with
  | [] => c.position
  | '\n' :: _ => ⟨c.line + 1, 0⟩
  | _ :: _ => ⟨c.line, c.column + 1⟩

/-- 1 文字進む。 -/
def Cursor.advance (c : Cursor) : Cursor :=
  match c.rest with
  | [] => c
  | ch :: rest =>
    if ch = '\n' then { c with rest := rest, line := c.line + 1, column := 0 }
    else { c with rest := rest, column := c.column + ch.utf8Size }

/-- 条件を満たす文字の間だけ進む。 -/
def Cursor.advanceWhile (p : Char → Bool) (c : Cursor) : Cursor :=
  go c.rest.length c
where
  go : Nat → Cursor → Cursor
    | 0, c => c
    | n + 1, c =>
      match c.rest with
      | ch :: _ => if p ch then go n c.advance else c
      | [] => c

/-- 残りの入力の先頭から `n` byte を読んだところの位置。文字の途中で止まれば、その文字の
読んだ byte の分だけ列が進む。 -/
def Cursor.positionAfter (c : Cursor) (n : Nat) : Position :=
  go c.rest n c.line c.column
where
  go : List Char → Nat → Nat → Nat → Position
    | [], _, line, column => ⟨line, column⟩
    | _, 0, line, column => ⟨line, column⟩
    | ch :: rest, n + 1, line, column =>
      if ch = '\n' then go rest n (line + 1) 0
      else
        let k := min ch.utf8Size (n + 1)
        go rest (n + 1 - k) line (column + k)

/-- 残りの入力の先頭の 4 文字までの byte 数。4 以上なら入力は 4 byte 以上残っている。 -/
def Cursor.leadingBytes (c : Cursor) : Nat :=
  (c.rest.take 4).foldl (fun n ch => n + ch.utf8Size) 0

/-- 状態と誤りを持つ読み取り。誤りの後も状態は残る。 -/
abbrev Reader := ExceptT Error (StateM Cursor)

namespace Reader

/-- 次の文字を見る。 -/
def peek : Reader (Option Char) := return (← get).rest.head?

/-- 1 文字進む。 -/
def eat : Reader Unit := modify Cursor.advance

/-- 次の文字を読む。 -/
def next : Reader (Option Char) := do
  let c ← peek
  eat
  return c

/-- 読み終えたところに位置を持つ誤り。 -/
def fail (p : Problem) : Reader α := do throw ⟨p, some (← get).position⟩

/-- 次の 1 byte を読んだところに位置を持つ誤り。 -/
def failPeek (p : Problem) : Reader α := do throw ⟨p, some (← get).peekPosition⟩

/-- 位置のない誤り。 -/
def raise (p : Problem) : Reader α := throw ⟨p, none⟩

/-- 位置のない誤りに、その時点の位置を与える。 -/
def fixPosition (act : Reader α) : Reader α :=
  tryCatch act fun e =>
    match e.position with
    | some _ => throw e
    | none => do throw { e with position := some (← get).position }

/-- 結果を誤りも含めて受け取る。状態はそのまま進む。 -/
def attempt (act : Reader α) : Reader (Except Error α) :=
  tryCatch (act.map .ok) fun e => pure (.error e)

/-- 空白（空白、タブ、改行、復帰）を飛ばして次の文字を見る。 -/
def skipBlank : Reader (Option Char) := do
  modify (Cursor.advanceWhile fun c => c = ' ' || c = '\n' || c = '\t' || c = '\r')
  peek

/-- 入れ子を一段深くする。深さを使い切れば誤り。 -/
def enter : Reader Unit := do
  let c ← get
  if c.depth ≤ 1 then failPeek .recursionLimitExceeded
  else set { c with depth := c.depth - 1 }

/-- 入れ子を一段戻す。 -/
def leave : Reader Unit := modify fun c => { c with depth := c.depth + 1 }

/-- 識別子の残りの文字を確かめる。 -/
def ident : List Char → Reader Unit
  | [] => pure ()
  | e :: rest => do
    match ← peek with
    | none => fail .eofWhileParsingValue
    | some c =>
      if c = e then
        eat
        ident rest
      else failPeek .expectedSomeIdent

/-- 10 進の数字の列を読む。 -/
def digits : Reader (List Char) := do
  let c ← get
  let ds := c.rest.takeWhile Char.isDigit
  set (c.advanceWhile Char.isDigit)
  return ds

/-- 16 進の 1 桁の値。 -/
def hexValue (c : Char) : Option Nat :=
  let n := c.toNat
  if 0x30 ≤ n ∧ n ≤ 0x39 then some (n - 0x30)
  else if 0x61 ≤ n ∧ n ≤ 0x66 then some (n - 0x61 + 10)
  else if 0x41 ≤ n ∧ n ≤ 0x46 then some (n - 0x41 + 10)
  else none

/-- `\u` の後の 4 byte を 16 進として読む。入力が 4 byte に足りなければ、終わりまで読んで
文字列の途中の終わり。16 進でない byte があれば、4 byte を読んだところで誤り。 -/
def hex4 : Reader Nat := do
  let c ← get
  if c.leadingBytes < 4 then
    set (c.advanceWhile fun _ => true)
    fail .eofWhileParsingString
  else
    match c.rest with
    | a :: b :: d :: e :: _ =>
      match hexValue a, hexValue b, hexValue d, hexValue e with
      | some w, some x, some y, some z =>
        eat; eat; eat; eat
        return ((w * 16 + x) * 16 + y) * 16 + z
      | _, _, _, _ => throw ⟨.invalidEscape, some (c.positionAfter 4)⟩
    | _ => throw ⟨.invalidEscape, some (c.positionAfter 4)⟩

/-- `\u` の escape（`u` は読んだ後）。上位の代用符号には下位の代用符号が続かねばならない。 -/
def unicodeEscape : Reader Char := do
  let n ← hex4
  if 0xDC00 ≤ n ∧ n ≤ 0xDFFF then fail .loneLeadingSurrogateInHexEscape
  else if n < 0xD800 ∨ 0xDBFF < n then return Char.ofNat n
  else
    match ← peek with
    | none => fail .eofWhileParsingString
    | some '\\' => eat
    | some _ => failPeek .unexpectedEndOfHexEscape
    match ← peek with
    | none => fail .eofWhileParsingString
    | some 'u' => eat
    | some _ => failPeek .unexpectedEndOfHexEscape
    let n2 ← hex4
    if n2 < 0xDC00 ∨ 0xDFFF < n2 then fail .loneLeadingSurrogateInHexEscape
    else return Char.ofNat ((n - 0xD800) * 1024 + (n2 - 0xDC00) + 0x10000)

/-- 一文字の escape が表す文字。 -/
def simpleEscape : Char → Option Char
  | '"' => some '"'
  | '\\' => some '\\'
  | '/' => some '/'
  | 'b' => some '\x08'
  | 'f' => some '\x0c'
  | 'n' => some '\n'
  | 'r' => some '\r'
  | 't' => some '\t'
  | _ => none

/-- `\` の後の escape を読む。 -/
def escape : Reader Char := do
  match ← peek with
  | none => fail .eofWhileParsingString
  | some 'u' => eat; unicodeEscape
  | some c =>
    match simpleEscape c with
    | some r => eat; return r
    | none => failPeek .invalidEscape

/-- 文字列の本体を読む（開きの引用符は読んだ後）。 -/
def stringLoop : Nat → List Char → Reader String
  | 0, _ => fail .eofWhileParsingString
  | fuel + 1, acc => do
    match ← peek with
    | none => fail .eofWhileParsingString
    | some '"' => eat; return String.ofList acc.reverse
    | some '\\' => eat; let c ← escape; stringLoop fuel (c :: acc)
    | some c =>
      eat
      if c.toNat < 0x20 then fail .controlCharacterWhileParsingString
      else stringLoop fuel (c :: acc)

/-- 文字列を読む（開きの引用符は読んだ後）。 -/
def string : Reader String := do
  let n := (← get).rest.length
  stringLoop (n + 1) []

/-- 読み飛ばす文字列の中の escape。`\u` の値は確かめない。 -/
def skipEscape : Reader Unit := do
  match ← peek with
  | none => fail .eofWhileParsingString
  | some 'u' => eat; discard hex4
  | some c => if (simpleEscape c).isSome then eat else failPeek .invalidEscape

/-- 文字列を読み飛ばす。制御文字の誤りはその文字の前に位置を持つ。 -/
def skipStringLoop : Nat → Reader Unit
  | 0 => fail .eofWhileParsingString
  | fuel + 1 => do
    match ← peek with
    | none => fail .eofWhileParsingString
    | some '"' => eat
    | some '\\' => eat; skipEscape; skipStringLoop fuel
    | some c =>
      if c.toNat < 0x20 then fail .controlCharacterWhileParsingString
      else eat; skipStringLoop fuel

/-- 文字列を読み飛ばす（開きの引用符は読んだ後）。 -/
def skipString : Reader Unit := do
  let n := (← get).rest.length
  skipStringLoop (n + 1)

/-- 数字の列の値。 -/
def digitsValue (ds : List Char) : Nat :=
  ds.foldl (fun n c => 10 * n + (c.toNat - 0x30)) 0

/-- 数の有効数字の上限。これを超える桁は読み捨てる。 -/
def significantDigits : Nat := 768

/-- 整数部と小数部の数字から、値を `m · 10^k` の形 `(m, k)` で返す。小数部の後ろの 0 と
先頭の 0 を除いた数字の列が `significantDigits` 桁を超えるときは、その桁までを残し、
次の桁を 1 として（捨てた桁が全部 0 でも）そこで打ち切る。打ち切った値は元の値と
最後の桁の 1 未満しか違わないが、ちょうど二つの binary64 の中点にある値は上に丸まる。 -/
def significand (intDigits frac : List Char) : Nat × Int :=
  let fracTrim := (frac.reverse.dropWhile (· = '0')).reverse
  let ds := (intDigits ++ fracTrim).dropWhile (· = '0')
  let shift : Int := -(fracTrim.length : Int)
  if ds.length ≤ significantDigits then (digitsValue ds, shift)
  else
    (digitsValue (ds.take significantDigits) * 10 + 1,
      shift + ((ds.length - (significantDigits + 1) : Nat) : Int))

/-- `digits · 10^exp` を符号つきで binary64 にする。大きすぎれば範囲外の誤り。 -/
def decimalFloat (positive : Bool) (d : Nat) (exp : Int) : Reader Float := do
  if d = 0 then return (if positive then 0.0 else -0.0)
  let lead := exp + (toString d).length - 1
  if 310 < lead then fail .numberOutOfRange
  else if lead < -330 then return (if positive then 0.0 else -0.0)
  else
    let x := Binary64.ofDecimal (!positive) d exp
    if x.isFinite then return x else fail .numberOutOfRange

/-- 指数の数字を読む。`2^31 - 1` を超えたら `none`（超えた桁までは読んでいる）。 -/
def exponentDigits : Nat → Nat → Reader (Option Nat)
  | 0, acc => return some acc
  | fuel + 1, acc => do
    match ← peek with
    | some c =>
      if c.isDigit then
        eat
        let acc' := 10 * acc + (c.toNat - 0x30)
        if 2147483647 < acc' then return none else exponentDigits fuel acc'
      else return some acc
    | none => return some acc

/-- 仮数が `2^64` 未満に収まるだけの数字を読んだ値 `(m, k)`（値は `m · 10^k`）。整数部で
仮数が収まらなくなった桁からは、整数部の残りの桁は数えて `k` に足すだけにする。小数部の
数字は、収まらなくなるまで仮数に足し、そこから後は捨てる。 -/
def truncatedSignificand (intDigits frac : List Char) : Nat × Int :=
  let limit := Nat.pow 2 64 - 1
  let (m, k, _) := intDigits.foldl (fun (m, k, full) c =>
    let m' := 10 * m + (c.toNat - 0x30)
    if full || limit < m' then (m, k + 1, true) else (m', k, false)) ((0 : Nat), (0 : Int), false)
  let (m, k, _) := frac.foldl (fun (m, k, full) c =>
    let m' := 10 * m + (c.toNat - 0x30)
    if full || limit < m' then (m, k, true) else (m', k - 1, false)) (m, k, false)
  (m, k)

/-- `10^k`（`k ≤ 308`）に最も近い binary64。 -/
def powerOfTen (k : Nat) : Float := Binary64.ofDecimal false 1 k

/-- `f · 10^k` を、符号 `neg` をつけて、`10^|k|` の binary64 を一度掛けるか割って求める。
`|k|` が 308 を超えて負なら、先に `1e308` で割って `k` に 308 を足すことを繰り返す。
`none` は大きすぎる値。`fuel` は `|k| / 308 + 1` あれば足りる。 -/
def scaleByPowerOfTen : Nat → Bool → Float → Int → Option Float
  | 0, _, _, _ => none
  | fuel + 1, neg, f, k =>
    if k.natAbs ≤ 308 then
      if 0 ≤ k then
        let g := Binary64.mulAbs neg f (powerOfTen k.natAbs)
        if g.isFinite then some g else none
      else some (Binary64.divAbs neg f (powerOfTen k.natAbs))
    else if (Binary64.magnitude f).map (·.1) = some 0 then some (if neg then -0.0 else 0.0)
    else if 0 ≤ k then none
    else scaleByPowerOfTen fuel neg (Binary64.divAbs false f (powerOfTen 308)) (k + 308)

/-- 整数部と小数部の数字に `10^e` を掛けた値を、符号つきで binary64 にする。変換の方法は
`Cursor.conversion` による。大きすぎれば範囲外の誤り。 -/
def floatOf (positive : Bool) (intDigits frac : List Char) (e : Int) : Reader Float := do
  match (← get).conversion with
  | .nearest =>
    let (mant, shift) := significand intDigits frac
    decimalFloat positive mant (shift + e)
  | .scaled =>
    let (m, k) := truncatedSignificand intDigits frac
    match scaleByPowerOfTen ((k + e).natAbs / 308 + 1) (!positive) (Binary64.ofNat m) (k + e) with
    | some x => return x
    | none => fail .numberOutOfRange

/-- 指数部（`e` の前まで読んだ後）。整数部と小数部の数字に指数を掛ける。 -/
def exponent (positive : Bool) (intDigits frac : List Char) : Reader Number := do
  eat
  let positiveExp ← do
    match ← peek with
    | some '+' => eat; pure true
    | some '-' => eat; pure false
    | _ => pure true
  match ← peek with
  | none => fail .eofWhileParsingValue
  | some c =>
    if !c.isDigit then failPeek .invalidNumber
    else
      eat
      let n := (← get).rest.length
      match ← exponentDigits n (c.toNat - 0x30) with
      | none =>
        if (intDigits ++ frac).any (· ≠ '0') ∧ positiveExp then fail .numberOutOfRange
        else
          discard digits
          return .float (if positive then 0.0 else -0.0)
      | some e =>
        let e : Int := if positiveExp then e else -(e : Int)
        return .float (← floatOf positive intDigits frac e)

/-- 整数部の後（小数部、指数部、または整数としての値）。 -/
def numberTail (positive : Bool) (intDigits : List Char) : Reader Number := do
  match ← peek with
  | some '.' =>
    eat
    let frac ← digits
    if frac.isEmpty then
      match ← peek with
      | some _ => failPeek .invalidNumber
      | none => failPeek .eofWhileParsingValue
    else
      match ← peek with
      | some 'e' | some 'E' => exponent positive intDigits frac
      | _ => return .float (← floatOf positive intDigits frac 0)
  | some 'e' | some 'E' => exponent positive intDigits []
  | _ =>
    let d := digitsValue intDigits
    if positive then
      if d < Nat.pow 2 64 then return .nat d else return .float (← floatOf true intDigits [] 0)
    else if d = 0 then return .float (-0.0)
    else if d ≤ Nat.pow 2 63 then return .negInt (-(d : Int))
    else return .float (← floatOf false intDigits [] 0)

/-- 数を読む（負なら `-` は読んだ後）。 -/
def number (positive : Bool) : Reader Number := do
  match ← peek with
  | none => fail .eofWhileParsingValue
  | some '0' =>
    eat
    match ← peek with
    | some c => if c.isDigit then failPeek .invalidNumber else numberTail positive ['0']
    | none => numberTail positive ['0']
  | some c =>
    if c.isDigit then
      eat
      let ds ← digits
      numberTail positive (c :: ds)
    else failPeek .invalidNumber

end Reader

end TankDrive.Json
