import TankDrive.Unicode
/-!
# field の値の正規表現の書式

filter の指示の field の条件 `名前=値` の値は、真偽値か数として読めなければ正規表現で、
それが照合の機械に組めなければ指示は読めない。ここでは組めるかどうかだけを確かめ、照合は
しない。span の外の記録には値つきの条件は効かないので、照合の結果はいらないからである。

## 書式

* `|` で区切った選択と、`(...)` の group：`(?P<名前>...)`、`(?<名前>...)`、`(?:...)`、
  `(?flags)`、`(?flags:...)`。名前は英字か `_` で始まり、同じ名前は二度使えない。
  先読みと後読みは書けない。
* 繰り返し `*` `+` `?` `{n}` `{n,}` `{n,m}`（後ろに `?` を付けてよい）は、式の後にしか
  置けない。選択や group の始まり、flags だけの group の直後には置けない。数は `2^32` 未満で、
  `n ≤ m`。
* 文字の組 `[...]`：先頭の `^`、先頭の `]` は文字そのもの、`a-z` の範囲（始めが終わり
  以下）、入れ子の組、`[:alpha:]` の類、集合の演算 `&&` `--` `~~`。
* `\` の後は、ASCII の記号（`<` `>` を除く）、`a f t n r v`、`d s w` とその大文字、
  `A z`、語の境界 `b B < >` と `\b{start}` などの特別な境界、16 進の `x` `u` `U`。数字
  （後方参照）は書けない。
* 組の始めの `-` はいくつでも文字そのもので、`-` がなければ始めの `]` も文字そのもの。
  どちらも範囲の始めにはならない。集合の演算は左から順に組む。
* `x` の印のもとでは、空白と `#` から行末までを読み飛ばす。飛ばすのは項と項の間、`(` の後、
  組の中、16 進の数字の前と間、繰り返しの数の中。`*` `+` `?` の後の控えめの `?` の前は
  飛ばさない。繰り返しの数の前後の空白は印がなくても飛ばす。
* 入れ子は 250 段まで。group、繰り返し、選択、二つ以上の項の並び、文字の組、組の中の
  二つ以上の項の和と入れ子の組、集合の演算がそれぞれ一段になる。

## 照合の機械に組めないもの

照合の機械は Unicode の文字の表を持たず、UTF-8 の文字列だけを照合する。そのため、
印 `u`（既定で立っている）のもとでは `\d` `\s` `\w` とその大文字、語の境界、そして印 `i` と
いっしょの文字（大文字小文字の対応の表が要る）が組めない。印 `i` のもとの組は、対応を
とる集合がどれも空のとき（`[&&]` のように文字の項がないとき）だけ組める。Unicode の性質
`\p` `\P` はいつも組めない。印 `u` を下ろすと、UTF-8 でない byte に合いうるもの、つまり
`.`、`\x80` 以上の byte、ASCII でない文字、否定の組、`\D` `\S` `\W` が組めない。

## 停止性

`scan` と `classItems` は一歩ごとに一文字以上を読み、`fuel` は入力の長さより大きくとる。
空白を飛ばす関数と、数字や名前の並びを読む関数は、文字の並びについての構造的な再帰。
-/

namespace TankDrive.Log.Pattern

/-! ## 印 -/

/-- 正規表現の印。 -/
structure Flags where
  /-- `x`：空白と注釈を読み飛ばす。 -/
  verbose : Bool := false
  /-- `u`：文字の類や `.` が Unicode の文字について働く。 -/
  unicode : Bool := true
  /-- `i`：大文字と小文字を区別しない。 -/
  caseless : Bool := false
deriving Repr, DecidableEq, Inhabited

/-- 印の文字を一つ立てるか下ろす。知らない印は変えない。 -/
def Flags.set (f : Flags) (c : Char) (on : Bool) : Flags :=
  match c with
  | 'x' => { f with verbose := on }
  | 'u' => { f with unicode := on }
  | 'i' => { f with caseless := on }
  | _ => f

/-! ## 空白と注釈 -/

/-- `x` の印のもとで読み飛ばす空白と注釈を除く。`inComment` は `#` の注釈の中にいるか。
注釈は行末の改行まで続く。 -/
def dropSpace (inComment : Bool) : List Char → List Char
  | [] => []
  | c :: rest =>
    if inComment then dropSpace (c != '\n') rest
    else if Unicode.whitespace c then dropSpace false rest
    else if c = '#' then dropSpace true rest
    else c :: rest

/-- `x` の印のもとで空白と注釈を読み飛ばす。印がなければ何もしない。 -/
def skipSpace (verbose : Bool) (cs : List Char) : List Char :=
  if verbose then dropSpace false cs else cs

/-- 組の中で `-` の後ろをのぞく。`x` の印のもとでは空白と最初の `#` 一つだけを飛ばした
次の文字で、注釈の中身は飛ばさない。そういう文字がなければ `-` の直後の文字。 -/
def peekSpace (verbose : Bool) (cs : List Char) : Option Char :=
  if !verbose then cs.head?
  else
    match cs.dropWhile Unicode.whitespace with
    | '#' :: rest =>
      match rest.dropWhile Unicode.whitespace with
      | c :: _ => some c
      | [] => cs.head?
    | c :: _ => some c
    | [] => cs.head?

/-- `p` に合う文字の並びを読む。`x` の印のもとでは文字の間の空白と注釈を飛ばす。読んだ文字と
残りを返す。 -/
def spacedSpan (p : Char → Bool) (verbose inComment : Bool) : List Char → List Char × List Char
  | [] => ([], [])
  | c :: rest =>
    if inComment then spacedSpan p verbose (c != '\n') rest
    else if verbose && Unicode.whitespace c then spacedSpan p verbose false rest
    else if verbose && c = '#' then spacedSpan p verbose true rest
    else if p c then
      let (cs, r) := spacedSpan p verbose false rest
      (c :: cs, r)
    else ([], c :: rest)

/-! ## 16 進 -/

/-- 16 進の数字の値。 -/
def hexDigit (c : Char) : Option Nat :=
  let n := c.toNat
  if 0x30 ≤ n && n ≤ 0x39 then some (n - 0x30)
  else if 0x61 ≤ n && n ≤ 0x66 then some (n - 0x61 + 10)
  else if 0x41 ≤ n && n ≤ 0x46 then some (n - 0x41 + 10)
  else none

/-- 16 進の数字の列の値。空か、数字でない文字があれば `none`。 -/
def hexValue (cs : List Char) : Option Nat :=
  if cs.isEmpty then none else cs.foldlM (fun n c => (hexDigit c).map (16 * n + ·)) 0

/-- Unicode の scalar 値か：`0x10FFFF` 以下で surrogate でない。 -/
def scalar (n : Nat) : Bool := n ≤ 0x10FFFF && !(0xD800 ≤ n && n ≤ 0xDFFF)

/-- ちょうど `n` 桁の 16 進の数字を読む。`x` の印のもとでは各桁の後の空白と注釈を飛ばす。 -/
def hexDigits (verbose : Bool) : Nat → List Char → Option (List Char × List Char)
  | 0, cs => some ([], cs)
  | n + 1, c :: rest =>
    if (hexDigit c).isSome then
      (hexDigits verbose n (skipSpace verbose rest)).map fun (ds, r) => (c :: ds, r)
    else none
  | _ + 1, [] => none

/-- `{` の後の 16 進の数字を `}` まで読む。`x` の印のもとでは空白と注釈を飛ばす。 -/
def hexBraced (verbose inComment : Bool) : List Char → Option (List Char × List Char)
  | [] => none
  | c :: rest =>
    if inComment then hexBraced verbose (c != '\n') rest
    else if verbose && Unicode.whitespace c then hexBraced verbose false rest
    else if verbose && c = '#' then hexBraced verbose true rest
    else if c = '\x7d' then some ([], skipSpace verbose rest)
    else if (hexDigit c).isSome then
      (hexBraced verbose false rest).map fun (ds, r) => (c :: ds, r)
    else none

/-- 読んだ 16 進の数字の列が文字の値なら、その値と残り。 -/
def hexChar (read : Option (List Char × List Char)) : Option (Nat × List Char) := do
  let (ds, rest) ← read
  let n ← hexValue ds
  if scalar n then some (n, rest) else none

/-- `\x` `\u` `\U` の後の 16 進：`{...}` か、ちょうど `width` 桁。`x` の印のもとでは前と間の
空白と注釈を飛ばす。`braced` は `{...}` の形だったか。 -/
def hexEscape (verbose : Bool) (width : Nat) (cs : List Char) :
    Option ((Nat × Bool) × List Char) :=
  match skipSpace verbose cs with
  | '\x7b' :: rest => (hexChar (hexBraced verbose false rest)).map fun (n, r) => ((n, true), r)
  | rest => (hexChar (hexDigits verbose width rest)).map fun (n, r) => ((n, false), r)

/-! ## 逃がし文字 -/

/-- `\` で始まる一つの項の種類。 -/
inductive Atom where
  /-- 一つの文字。値は code point。 -/
  | char (n : Nat)
  /-- 二桁の `\xNN`。印 `u` を下ろすと一つの byte になる。 -/
  | byte (n : Nat)
  /-- `\d` `\s` `\w`（`negated` なら大文字）。 -/
  | perl (negated : Bool)
  /-- 語の境界 `\b` `\B` `\<` `\>` と `\b{start}` など。 -/
  | boundary
  /-- 位置の条件 `\A` `\z`。 -/
  | anchor
  /-- Unicode の性質 `\p` `\P`。 -/
  | property
deriving Repr, DecidableEq, Inhabited

/-- `\` を付けて文字そのものにできる ASCII の記号か。英数字と `<` `>` は別の意味のために
とってある。 -/
def escapable (c : Char) : Bool :=
  c.toNat < 0x80 && !c.isAlphanum && c ≠ '<' && c ≠ '>'

/-- 特別な語の境界の名前に使える文字。 -/
def boundaryNameChar (c : Char) : Bool := c.isAlpha || c = '-'

/-- `\b` の後に `{` が続けば、`{start}` `{end}` `{start-half}` `{end-half}` を読む。`{` の後の
最初の文字が名前の文字でなければ、`{` は繰り返しの数として残す。 -/
def specialBoundary (verbose : Bool) (cs : List Char) : Option (List Char) :=
  match cs with
  | '\x7b' :: rest =>
    match skipSpace verbose rest with
    | [] => none
    | c :: more =>
      if !boundaryNameChar c then some cs
      else
        match spacedSpan boundaryNameChar verbose false (c :: more) with
        | (name, '\x7d' :: after) =>
          if ["start", "end", "start-half", "end-half"].contains (String.ofList name) then
            some after
          else none
        | _ => none
  | _ => some cs

/-- `\p` `\P` の後の性質の名前：`{...}` か一文字。 -/
def propertyName (verbose : Bool) (cs : List Char) : Option (List Char) :=
  match skipSpace verbose cs with
  | '\x7b' :: rest =>
    match rest.span (· ≠ '\x7d') with
    | (_, _ :: after) => some after
    | (_, []) => none
  | _ :: rest => some rest
  | [] => none

/-- `\` の後を読む。`\b` の後の特別な境界は組の外でだけ読む。 -/
def escape (verbose inClass : Bool) : List Char → Option (Atom × List Char)
  | [] => none
  | c :: rest =>
    match c with
    | 'x' => (hexEscape verbose 2 rest).map fun ((n, braced), r) =>
        (if braced then .char n else .byte n, r)
    | 'u' => (hexEscape verbose 4 rest).map fun ((n, _), r) => (.char n, r)
    | 'U' => (hexEscape verbose 8 rest).map fun ((n, _), r) => (.char n, r)
    | 'p' | 'P' => (propertyName verbose rest).map fun r => (.property, r)
    | 'd' | 's' | 'w' => some (.perl false, rest)
    | 'D' | 'S' | 'W' => some (.perl true, rest)
    | 'a' => some (.char 7, rest)
    | 'f' => some (.char 12, rest)
    | 't' => some (.char 9, rest)
    | 'n' => some (.char 10, rest)
    | 'r' => some (.char 13, rest)
    | 'v' => some (.char 11, rest)
    | 'A' | 'z' => some (.anchor, rest)
    | 'b' =>
      if inClass then some (.boundary, rest)
      else (specialBoundary verbose rest).map fun r => (.boundary, r)
    | 'B' | '<' | '>' => some (.boundary, rest)
    | _ => if escapable c then some (.char c.toNat, rest) else none

/-- 文字 `n` が組めるか：印 `u` のもとでは `i` がなければ組め、印 `u` を下ろしたら ASCII
だけ。 -/
def charOk (f : Flags) (n : Nat) : Bool :=
  if f.unicode then !f.caseless else n < 0x80

/-- 組の外の一つの項が照合の機械に組めるか。 -/
def Atom.buildable (f : Flags) : Atom → Bool
  | .char n | .byte n => charOk f n
  | .perl negated => !f.unicode && !negated
  | .boundary => !f.unicode
  | .anchor => true
  | .property => false

/-- 組の中の文字が組めるか：印 `u` を下ろしたら ASCII だけ。印 `i` は組全体で確かめる。 -/
def classCharOk (f : Flags) (n : Nat) : Bool := f.unicode || n < 0x80

/-! ## 繰り返しの数 -/

/-- 数字の列の値。 -/
def decimal (ds : List Char) : Nat := ds.foldl (fun n c => 10 * n + (c.toNat - 0x30)) 0

/-- 繰り返しの数を一つ読む：前後の空白（印がなくても）を飛ばし、`2^32` 未満の 10 進の数。
`x` の印のもとでは数字の間の空白と注釈も飛ばす。 -/
def readCount (verbose : Bool) (cs : List Char) : Option (Nat × List Char) :=
  let (ds, rest) := spacedSpan Char.isDigit verbose false (cs.dropWhile Unicode.whitespace)
  if ds.isEmpty then none
  else
    let n := decimal ds
    if n < Nat.pow 2 32 then some (n, rest.dropWhile Unicode.whitespace) else none

/-- 数の繰り返しの `}` の後：空白と注釈を飛ばして、控えめにする `?` があれば読む。 -/
def countedLazy (verbose : Bool) (cs : List Char) : List Char :=
  match skipSpace verbose cs with
  | '?' :: rest => rest
  | rest => rest

/-- `{` の後の `n}`、`n,}`、`n,m}` を読む。`n ≤ m` でなければ誤り。 -/
def counted (verbose : Bool) (cs : List Char) : Option (List Char) := do
  let (n, cs) ← readCount verbose (skipSpace verbose cs)
  match cs with
  | '\x7d' :: rest => some (countedLazy verbose rest)
  | ',' :: rest =>
    match skipSpace verbose rest with
    | [] => none
    | '\x7d' :: after => some (countedLazy verbose after)
    | more => do
      let (m, r) ← readCount verbose more
      match r with
      | '\x7d' :: after => if n ≤ m then some (countedLazy verbose after) else none
      | _ => none
  | _ => none

/-- `*` `+` `?` の直後の、控えめにする `?` を一つ読み飛ばす。空白は飛ばさない。 -/
def skipLazy (cs : List Char) : List Char :=
  match cs with
  | '?' :: rest => rest
  | rest => rest

/-! ## 文字の組 -/

/-- `[:alpha:]` の類の名前。 -/
def asciiClassNames : List String :=
  ["alnum", "alpha", "ascii", "blank", "cntrl", "digit", "graph", "lower", "print", "punct",
    "space", "upper", "word", "xdigit"]

/-- `[` の後が `:名前:]`（`:^名前:]` も）なら、否定かどうかとその後の残り。 -/
def asciiClass : List Char → Option (Bool × List Char)
  | ':' :: rest =>
    let (negated, rest) := match rest with
      | '^' :: r => (true, r)
      | r => (false, r)
    match rest.span (· ≠ ':') with
    | (name, ':' :: ']' :: after) =>
      if asciiClassNames.contains (String.ofList name) then some (negated, after) else none
    | _ => none
  | _ => none

/-- 文字の組の中身を読んでいる間の記録。集合の演算は左から順に組むので、演算の左側は
一つの集合にまとまっている。 -/
structure ClassScan where
  /-- 待っている演算の左側の集合の入れ子の段数。演算がまだなければ `none`。 -/
  lhs : Option Nat := none
  /-- 今の和の項の数。 -/
  items : Nat := 0
  /-- 今の和の項の最も深い入れ子。 -/
  deepest : Nat := 0
  /-- 空でない項があったか。 -/
  filled : Bool := false

/-- 入れ子 `d` 段の項を一つ足す。`filled` はその項が空でないか。 -/
def ClassScan.add (s : ClassScan) (d : Nat) (filled : Bool) : ClassScan :=
  { s with items := s.items + 1, deepest := max s.deepest d, filled := s.filled || filled }

/-- 今の和の入れ子：項が二つ以上なら和の一段を足す。 -/
def ClassScan.union (s : ClassScan) : Nat :=
  if 2 ≤ s.items then 1 + s.deepest else s.deepest

/-- ここまでの集合の入れ子：演算があれば演算の一段を足す。 -/
def ClassScan.set (s : ClassScan) : Nat :=
  match s.lhs with
  | some a => 1 + max a s.union
  | none => s.union

/-- 集合の演算で今の和を終える。 -/
def ClassScan.operate (s : ClassScan) : ClassScan :=
  { lhs := some s.set, filled := s.filled }

/-- 組を閉じられるか：印 `u` のもとで `i` があれば、対応をとる集合が空でなければならず、
印 `u` を下ろした否定は ASCII でない byte に合う。 -/
def closeOk (f : Flags) (negated : Bool) (s : ClassScan) : Bool :=
  if f.unicode then !f.caseless || !s.filled else !negated

/-- 組の一つの端：`\` の後の項か、ただの文字。 -/
def classPrimitive (f : Flags) : List Char → Option (Atom × List Char)
  | '\\' :: rest => escape f.verbose true rest
  | c :: rest => some (.char c.toNat, rest)
  | [] => none

/-- 組の中で項として使えるか。 -/
def classAtomOk (f : Flags) : Atom → Bool
  | .char n | .byte n => classCharOk f n
  | .perl negated => !f.unicode && !negated
  | _ => false

/-- 範囲の端の値。文字でなければ `none`。 -/
def Atom.literal? : Atom → Option Nat
  | .char n | .byte n => some n
  | _ => none

/-- 組の項を一つ読む：一つの端か、`端-端` の範囲。`-` の後ろが `]` か `-` なら範囲では
ない。範囲の両端は文字で、始めが終わり以下。 -/
def classRange (f : Flags) (cs : List Char) : Option (List Char) := do
  let (a, rest) ← classPrimitive f cs
  match skipSpace f.verbose rest with
  | [] => none
  | '-' :: after =>
    let next := peekSpace f.verbose after
    if next = some ']' || next = some '-' then
      if classAtomOk f a then some ('-' :: after) else none
    else
      let (b, r) ← classPrimitive f (skipSpace f.verbose after)
      let n ← a.literal?
      let m ← b.literal?
      if n ≤ m && classCharOk f n && classCharOk f m then some r else none
  | r => if classAtomOk f a then some r else none

/-- 組の始め：`[` の後の空白、否定の `^`、いくつかの `-`、そして `-` がなければ始めの `]`。
`-` と `]` は文字そのもので範囲を始めない。否定かどうか、読んだ項、残りを返す。 -/
def classOpen (f : Flags) (cs : List Char) : Bool × ClassScan × List Char :=
  let (negated, cs) := match skipSpace f.verbose cs with
    | '^' :: rest => (true, skipSpace f.verbose rest)
    | rest => (false, rest)
  let (dashes, cs) := spacedSpan (· = '-') f.verbose false cs
  let s : ClassScan := dashes.foldl (fun s _ => s.add 0 true) {}
  match dashes, cs with
  | [], ']' :: rest => (negated, s.add 0 true, skipSpace f.verbose rest)
  | _, _ => (negated, s, cs)

/-- 文字の組の中身を `]` まで読む。組の入れ子の段数、組が空でないか、その後の残りを返す。
入れ子の組も読む。 -/
def classItems : Nat → Flags → Bool → ClassScan → List Char → Option ((Nat × Bool) × List Char)
  | 0, _, _, _, _ => none
  | fuel + 1, f, negated, s, cs =>
    match skipSpace f.verbose cs with
    | [] => none
    | '[' :: rest =>
      match asciiClass rest with
      | some (neg, r) =>
        if f.unicode || !neg then classItems fuel f negated (s.add 0 true) r else none
      | none =>
        let (neg, inner, r) := classOpen f rest
        match classItems fuel f neg inner r with
        | some ((d, full), r') => classItems fuel f negated (s.add d full) r'
        | none => none
    | ']' :: rest =>
      if closeOk f negated s then some ((1 + s.set, negated || s.filled), rest) else none
    | '&' :: '&' :: rest | '-' :: '-' :: rest | '~' :: '~' :: rest =>
      classItems fuel f negated s.operate rest
    | more =>
      match classRange f more with
      | some r => classItems fuel f negated (s.add 0 true) r
      | none => none

/-! ## 入れ子の段数 -/

/-- 開いている group 一つ（いちばん外は式全体）の、入れ子を数えるための記録。 -/
structure Frame where
  /-- group の外の印。閉じたら戻す。 -/
  outer : Flags
  /-- 終わった選択肢があるか。 -/
  alternated : Bool := false
  /-- 終わった選択肢の中の最も深い入れ子。 -/
  altDepth : Nat := 0
  /-- 今の選択肢の項の数。 -/
  items : Nat := 0
  /-- 今の選択肢の、最後より前の項の最も深い入れ子。 -/
  earlier : Nat := 0
  /-- 最後の項の入れ子。 -/
  last : Nat := 0

/-- 入れ子 `d` 段の項を今の選択肢に足す。 -/
def Frame.push (fr : Frame) (d : Nat) : Frame :=
  { fr with items := fr.items + 1, earlier := max fr.earlier fr.last, last := d }

/-- 今の選択肢の入れ子：項が二つ以上なら並びの一段を足す。 -/
def Frame.branchDepth (fr : Frame) : Nat :=
  if 2 ≤ fr.items then 1 + max fr.earlier fr.last else fr.last

/-- group の中身の入れ子：選択があれば選択の一段を足す。 -/
def Frame.depth (fr : Frame) : Nat :=
  if fr.alternated then 1 + max fr.altDepth fr.branchDepth else fr.branchDepth

/-- `|` で今の選択肢を終える。 -/
def Frame.alternate (fr : Frame) : Frame :=
  { fr with
    alternated := true
    altDepth := max fr.altDepth fr.branchDepth
    items := 0
    earlier := 0
    last := 0 }

/-- 入れ子の上限。 -/
def nestLimit : Nat := 250

/-! ## group と flags -/

/-- group の名前の文字か。最初の文字は英字か `_`。 -/
def nameChar (first : Bool) (c : Char) : Bool :=
  if first then c = '_' || Unicode.alphabetic c
  else c = '_' || c = '.' || c = '[' || c = ']' || Unicode.alphanumeric c

/-- 読み進める間の状態。 -/
structure Scan where
  /-- 今の group。 -/
  current : Frame
  /-- 外側の group（内側から順に）。 -/
  enclosing : List Frame
  /-- 今の印。 -/
  flags : Flags
  /-- 直前に繰り返しを付けられる項があるか。 -/
  operand : Bool
  /-- これまでの group の名前。 -/
  names : List String

/-- 式の始めの状態。 -/
def Scan.initial : Scan := ⟨{ outer := {} }, [], {}, false, []⟩

/-- 入れ子 `d` 段の項を一つ足す。 -/
def Scan.item (s : Scan) (d : Nat) : Scan :=
  { s with current := s.current.push d, operand := true }

/-- 最後の項を繰り返しで包む。 -/
def Scan.repeated (s : Scan) : Scan :=
  { s with current := { s.current with last := s.current.last + 1 } }

/-- group を一つ開く。中の印は `inner`。 -/
def Scan.enter (s : Scan) (inner : Flags) : Scan :=
  { s with
    current := { outer := s.flags }
    enclosing := s.current :: s.enclosing
    flags := inner
    operand := false }

/-- group を閉じる。開いていなければ `none`。 -/
def Scan.close (s : Scan) : Option Scan :=
  match s.enclosing with
  | fr :: rest =>
    some { s with
      current := fr.push (1 + s.current.depth)
      enclosing := rest
      flags := s.current.outer
      operand := true }
  | [] => none

/-- `(?` の後の flags を `)` か `:` まで読み、新しい印と終わりの文字と残りを返す。
知らない印、同じ印の二度目、二つ目の `-`、`-` で終わる並び、空の `(?)` は誤り。 -/
def flags (f : Flags) (cs : List Char) : Option (Flags × Char × List Char) :=
  match cs.span fun c => c ≠ ')' && c ≠ ':' with
  | (fs, t :: rest) =>
    let letters := fs.filter (· ≠ '-')
    let negations := fs.filter (· = '-')
    if !fs.all "imsUuxR-".toList.contains then none
    else if letters.eraseDups.length ≠ letters.length then none
    else if 1 < negations.length then none
    else if fs.getLast? = some '-' then none
    else if fs.isEmpty && t = ')' then none
    else
      let (before, after) := fs.span (· ≠ '-')
      let f := before.foldl (fun g c => g.set c true) f
      let f := after.foldl (fun g c => g.set c false) f
      some (f, t, rest)
  | (_, []) => none

/-- `(` の後を読む：名前つき group、flags、ふつうの group。`(` の直後の空白と注釈は
`x` の印のもとで飛ばす。 -/
def group (s : Scan) (cs : List Char) : Option (Scan × List Char) :=
  match skipSpace s.flags.verbose cs with
  | '?' :: rest =>
    let named := match rest with
      | 'P' :: '<' :: r => some r
      | '<' :: r => some r
      | _ => none
    match named with
    | some r =>
      match r.span (· ≠ '>') with
      | (name, _ :: after) =>
        let ok := match name with
          | c :: cs => nameChar true c && cs.all (nameChar false)
          | [] => false
        let n := String.ofList name
        if ok && !s.names.contains n then
          some ({ s.enter s.flags with names := s.names ++ [n] }, after)
        else none
      | (_, []) => none
    | none =>
      match rest with
      | 'P' :: _ => none
      | _ => do
        let (f, t, after) ← flags s.flags rest
        if t = ')' then
          some ({ s with current := s.current.push 0, flags := f, operand := false }, after)
        else some (s.enter f, after)
  | rest => some (s.enter s.flags, rest)

/-! ## 全体 -/

/-- 正規表現を終わりまで読み、照合の機械に組めるか。 -/
def scan : Nat → Scan → List Char → Bool
  | 0, _, _ => false
  | _ + 1, s, [] => s.enclosing.isEmpty && s.current.depth ≤ nestLimit
  | fuel + 1, s, c :: rest =>
    let f := s.flags
    if f.verbose && Unicode.whitespace c then scan fuel s rest
    else if f.verbose && c = '#' then scan fuel s (rest.dropWhile (· ≠ '\n'))
    else
      match c with
      | '|' => scan fuel { s with current := s.current.alternate, operand := false } rest
      | '(' =>
        match group s rest with
        | some (s', r) => scan fuel s' r
        | none => false
      | ')' =>
        match s.close with
        | some s' => scan fuel s' rest
        | none => false
      | '[' =>
        let (negated, inner, r) := classOpen f rest
        match classItems (rest.length + 1) f negated inner r with
        | some ((d, _), r') => scan fuel (s.item d) r'
        | none => false
      | '\\' =>
        match escape f.verbose false rest with
        | some (a, r) => a.buildable f && scan fuel (s.item 0) r
        | none => false
      | '*' | '+' | '?' => s.operand && scan fuel s.repeated (skipLazy rest)
      | '\x7b' =>
        s.operand &&
          match counted f.verbose rest with
          | some r => scan fuel s.repeated r
          | none => false
      | '.' => f.unicode && scan fuel (s.item 0) rest
      | '^' | '$' => scan fuel (s.item 0) rest
      | _ => charOk f c.toNat && scan fuel (s.item 0) rest

/-- 正規表現が照合の機械に組めるか。 -/
def valid (p : String) : Bool :=
  scan (p.length + 1) Scan.initial p.toList

/-! ## 値 -/

/-- 10 進の浮動小数点数として読めるか：符号の後に、数字と `.` と指数、または `inf`
`infinity` `nan`（大文字小文字を問わない）。数字は整数部か小数部に一つ以上。 -/
def decimalLiteral (s : String) : Bool :=
  let cs := match s.toList with
    | '+' :: r | '-' :: r => r
    | r => r
  let low := String.ofList (cs.map Char.toLower)
  if low = "inf" || low = "infinity" || low = "nan" then true
  else
    let (intPart, r) := cs.span Char.isDigit
    let (fracPart, r) := match r with
      | '.' :: r' => r'.span Char.isDigit
      | r' => ([], r')
    if intPart.isEmpty && fracPart.isEmpty then false
    else
      match r with
      | [] => true
      | 'e' :: r' | 'E' :: r' =>
        let ds := match r' with
          | '+' :: x | '-' :: x => x
          | x => x
        !ds.isEmpty && ds.all Char.isDigit
      | _ => false

/-- field の値として読めるか：真偽値、数、または照合の機械に組める正規表現。 -/
def acceptsValue (s : String) : Bool :=
  s = "true" || s = "false" || decimalLiteral s || valid s

end TankDrive.Log.Pattern
