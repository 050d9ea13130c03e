import TankDrive.Log.Pattern
/-!
# 記録

記録の一行は重さ（level）、出どころ（target）、文からなり、`LEVEL target: 文` と書く。
出どころは部品ごとに一つの名前を持つ。

命令行から動くときは、環境の filter が記録を選ぶ（`Filter`）。filter は `,` で区切った
指示の並びで、指示は `level`、`target`、`target=level`、そして span と field の条件
`target[span{field}]=level` の形。一つの記録には、span の外で効く指示のうち、出どころの名前が
その target で始まり、記録がその field を持つ最も細かい指示が効く。どれもなければ記録しない。
指示は前後の空白を除いて読み、英数字、`_`、`-`、`:`、`[` のどれかで始まる。指示全体が重さとして
読めれば（`01` や `003` も）target なしの指示になる。位置は空白を除いた指示で測るが、切り出しは
元の指示から行うので、前に空白のある指示はずれた部分を読む。field の値は、真偽値か数でなければ
照合の機械に組める正規表現でなければならない。読めない指示が一つでもあれば、filter は既定の `info` になる。

記録の文の中の、端末を操る文字は見える形で書く：ESC、BEL、BS、FF、DEL は `\x1b` の形、
C1 制御文字（U+0080 〜 U+009F）は `\u{80}` の形。
-/

namespace TankDrive.Log

/-- 記録の重さ。重い順。 -/
inductive Level where
  | error
  | warn
  | info
  | debug
  | trace
deriving Repr, DecidableEq, Inhabited

/-- 重さの名前。 -/
def Level.name : Level → String
  | .error => "ERROR"
  | .warn => "WARN"
  | .info => "INFO"
  | .debug => "DEBUG"
  | .trace => "TRACE"

/-- 重さの順位。重いほど小さい。 -/
def Level.rank : Level → Nat
  | .error => 1
  | .warn => 2
  | .info => 3
  | .debug => 4
  | .trace => 5

/-- 記録の出どころ。 -/
inductive Source where
  | controller
  | link
  | telemetry
  | watchdog
  | commandPlane
deriving Repr, DecidableEq, Inhabited

/-- 出どころの名前。 -/
def Source.target : Source → String
  | .controller => "tank_drive_runtime::motor::controller"
  | .link => "tank_drive_runtime::motor::link"
  | .telemetry => "tank_drive_runtime::motor::telemetry"
  | .watchdog => "tank_drive_runtime::watchdog"
  | .commandPlane => "tank_drive_runtime::runtime"

/-- 記録の一行。 -/
structure Line where
  level : Level
  source : Source
  text : String
deriving Repr, DecidableEq, Inhabited

/-- 16 進の二桁（小文字）。 -/
def hexByte (n : Nat) : String :=
  let digit (k : Nat) : Char := if k < 10 then Char.ofNat (0x30 + k) else Char.ofNat (0x57 + k)
  String.ofList [digit (n / 16 % 16), digit (n % 16)]

/-- 端末を操る文字か：ESC、BEL、BS、FF、DEL と、C1 制御文字（U+0080 〜 U+009F）。 -/
def controlChar (c : Char) : Bool :=
  let n := c.toNat
  n = 0x1B || n = 0x07 || n = 0x08 || n = 0x0C || n = 0x7F || (0x80 ≤ n && n ≤ 0x9F)

/-- 文の中の端末を操る文字を見える形にする：C1 制御文字は `\u{80}` の形（16 進は小文字で
先頭の 0 なし）、ほかは `\x1b` の形。ほかの文字はそのまま。 -/
def escapeControls (s : String) : String :=
  String.join (s.toList.map fun c =>
    if !controlChar c then c.toString
    else if 0x80 ≤ c.toNat then "\\u\x7b" ++ hexByte c.toNat ++ "\x7d"
    else "\\x" ++ hexByte c.toNat)

/-- 一行を書く。 -/
def Line.render (l : Line) : String :=
  l.level.name ++ " " ++ l.source.target ++ ": " ++ escapeControls l.text

/-- 指示の field の条件：その名前の field があること。値があれば、その値であること。 -/
structure FieldMatch where
  name : String
  value : Option String
deriving Repr, DecidableEq

/-- filter の指示一つ。`rank = 0` は何も通さない（`off`）。 -/
structure Directive where
  target : Option String
  /-- span の名前。空の名前もありうる。 -/
  span : Option String
  fields : List FieldMatch
  rank : Nat
deriving Repr, DecidableEq

/-- 記録を選ぶ filter。 -/
abbrev Filter := List Directive

/-- 記録の一行が持つ field の名前。文だけを持つ。 -/
def eventFields : List String := ["message"]

/-- span の外の記録に効く指示か。span の名前も field の値もない指示だけが効く。 -/
def Directive.static (d : Directive) : Bool :=
  d.span.isNone && d.fields.all (·.value.isNone)

/-- 指示が記録にかかわるか：出どころの名前がその target で始まり、記録が指示の field を
全部持つ。 -/
def Directive.cares (d : Directive) (l : Line) : Bool :=
  (match d.target with
    | some t => l.source.target.startsWith t
    | none => true) &&
  d.fields.all fun f => eventFields.contains f.name

/-- 指示の細かさ。target が長いほど、次に field が多いほど細かい。target のない指示が
いちばん粗い。 -/
def Directive.specificity (d : Directive) : Nat × Nat :=
  ((d.target.map (·.length + 1)).getD 0, d.fields.length)

/-- `d` が `e` より細かくないか（辞書式）。 -/
def Directive.coarserEq (d e : Directive) : Bool :=
  let (a, b) := d.specificity
  let (c, k) := e.specificity
  a < c || (a = c && b ≤ k)

/-- 10 進の自然数を読む（先頭に `+` を一つ付けてもよい）。 -/
def readUnsigned (s : String) : Option Nat :=
  let ds := match s.toList with
    | '+' :: rest => rest
    | cs => cs
  if ds.isEmpty || !ds.all Char.isDigit then none
  else
    let n := ds.foldl (fun n c => 10 * n + (c.toNat - 0x30)) 0
    if n < Nat.pow 2 64 then some n else none

/-- 重さの名前（大文字小文字を問わない）。 -/
def namedRank? (s : String) : Option Nat :=
  match s.toLower with
  | "off" => some 0
  | "error" => some 1
  | "warn" => some 2
  | "info" => some 3
  | "debug" => some 4
  | "trace" => some 5
  | _ => none

/-- 重さの読み方：数 0 〜 5（`+` や先頭の 0 を付けてもよい）と名前。 -/
def rankOf? (s : String) : Option Nat :=
  match readUnsigned s with
  | some n => if n ≤ 5 then some n else none
  | none => namedRank? s

/-- `=` の後の重さ：空なら `trace`、ほかは `rankOf?`。 -/
def levelText? (s : String) : Option Nat :=
  if s.isEmpty then some 5 else rankOf? s

/-- 語の文字：英字、数字、`_`。 -/
def wordChar (c : Char) : Bool := Unicode.alphanumeric c || c = '_'

/-- 指示の書き出しの文字として読めるか：語の文字、`-`、`:`、span の `[`。二文字目から後は
どんな文字でもよい。 -/
def selectorStart (c : Char) : Bool := wordChar c || c = '-' || c = ':' || c = '['

/-- 文字の並びの UTF-8 での byte 数。 -/
def byteLength (cs : List Char) : Nat := cs.foldl (fun n c => n + c.utf8Size) 0

/-- 前後の空白を除いた文字の並び。 -/
def trimmed (cs : List Char) : List Char :=
  ((cs.dropWhile Unicode.whitespace).reverse.dropWhile Unicode.whitespace).reverse

/-- 指示の byte 列の `a` から `b` の手前までを文字列に戻す。文字の途中で切れていれば
読めない。 -/
def slice (bytes : List UInt8) (a b : Nat) : Option String :=
  String.fromUTF8? ⟨((bytes.drop a).take (b - a)).toArray⟩

/-- field の条件を一つ読む：`名前` か `名前=値`。条件は空にできない（`=値` だけならよい）。
値は真偽値か数でなければ照合の機械に組める正規表現でなければならない。二つ目の `=` から後は
捨てる。 -/
def FieldMatch.parse? (s : String) : Option FieldMatch :=
  if s.isEmpty then none
  else
    match s.splitOn "=" with
    | name :: value :: _ => if Pattern.acceptsValue value then some ⟨name, some value⟩ else none
    | _ => some ⟨s, none⟩

/-- span の指定を読む。`cs` は `[` の後の文字、`pos` はその位置。名前（`{` と `]` 以外の
文字）、続いてあれば `{` から最初の `}` までの field の並び、そして `]`。名前が空なら、field の
並びがあれば名前なし、なければ空の名前。名前と field の並びは `bytes` の同じ位置から切り出す。
読んだものと、`]` の後の位置と残りの文字を返す。 -/
def spanPart (bytes : List UInt8) (pos : Nat) (cs : List Char) :
    Option ((Option String × List FieldMatch) × Nat × List Char) :=
  match cs.span fun c => c ≠ '\x7b' && c ≠ ']' with
  | (name, ']' :: after) =>
    let close := pos + byteLength name
    (slice bytes pos close).map fun n => ((some n, []), close + 1, after)
  | (name, _ :: rest) =>
    let brace := pos + byteLength name
    match rest.span (· ≠ '\x7d') with
    | (inner, _ :: ']' :: after) => do
      let n ← slice bytes pos brace
      let close := brace + 1 + byteLength inner
      let list ← slice bytes (brace + 1) close
      let fields ← (list.splitOn ",").mapM FieldMatch.parse?
      pure ((if n.isEmpty then none else some n, fields), close + 2, after)
    | _ => none
  | (_, []) => none

/-- target や span の後：何もなければ `trace`。`=` なら、`bytes` のその後ろ全部が重さ。`pos` は
続きの位置。 -/
def levelPart (bytes : List UInt8) (pos : Nat) : List Char → Option Nat
  | [] => some 5
  | '=' :: _ => (slice bytes (pos + 1) bytes.length).bind levelText?
  | _ => none

/-- 指示を一つ読む。前後の空白を除いたものが空なら読めない。その最初の文字は `selectorStart`。
指示全体が重さとして読めれば（`info`、`01`、`003`）target なしの指示。そうでなければ
`target`、`target[span]`、`[span]` に `=重さ` を付けたもの。target は `[` か `=` までで、空なら
target なし。span の `]` の後は `=` か終わり。

位置は前後の空白を除いた文字の並びで測り、target、span、field、重さはその位置で元の指示の
byte 列から切り出す。前に空白があると切り出しはその分だけ前にずれる：`=` のある指示の重さは
`=` から始まって読めず、field の並びは `{` から始まって最後の文字を欠く。 -/
def Directive.parse? (s : String) : Option Directive :=
  let bytes := s.toUTF8.toList
  match trimmed s.toList with
  | [] => none
  | c :: cs =>
    if !selectorStart c then none
    else
      match rankOf? s with
      | some r => some ⟨none, none, [], r⟩
      | none =>
        let (t, rest) := (c :: cs).span fun c => c ≠ '[' && c ≠ '='
        let edge := byteLength t
        match rest with
        | '[' :: more => do
          let target ← if t.isEmpty then pure none else (slice bytes 0 edge).map some
          let ((span, fields), pos, after) ← spanPart bytes (edge + 1) more
          let r ← levelPart bytes pos after
          pure ⟨target, span, fields, r⟩
        | _ => do
          let target ← slice bytes 0 edge
          let r ← levelPart bytes edge rest
          pure ⟨some target, none, [], r⟩

/-- filter を読む。空の指示は飛ばし、読めない指示が一つでもあれば `none`。 -/
def Filter.parse? (s : String) : Option Filter :=
  ((s.splitOn ",").filter (!·.isEmpty)).mapM Directive.parse?

/-- 既定の filter：`info` まで。 -/
def Filter.default : Filter := [⟨none, none, [], 3⟩]

/-- 環境の指定から filter を決める。指定がないか読めなければ既定。 -/
def Filter.ofEnv (env : Option String) : Filter :=
  match env with
  | some s => (Filter.parse? s).getD Filter.default
  | none => Filter.default

/-- 一行が filter を通るか。span の外で効く指示のうち、その行にかかわる最も細かいもの
（同じ細かさなら後のもの）の重さまでを通す。 -/
def Filter.allows (f : Filter) (l : Line) : Bool :=
  let matching := f.filter fun d => d.static && d.cares l
  let best := matching.foldl (fun (acc : Option Directive) d =>
    match acc with
    | some a => if a.coarserEq d then some d else some a
    | none => some d) none
  match best with
  | some d => l.level.rank ≤ d.rank
  | none => false

end TankDrive.Log
