import TankDrive.Binary64.Basic
/-!
# 命令行の引数

選択肢は `-c`（`--config`）、`-p`（`--port`）、`-b`（`--baud`）、`--deadline-ms`、`--poll-ms`、
`--max-speed` と、表示の `-h`（`--help`）、`-V`（`--version`）。値は次の引数、`--name=value`、
`-pvalue`、`-p=value` のどれでも渡せる。

読み方は次のとおり。

* 値を待つ選択肢の値は、次の引数が選択肢に見えない限りその引数。選択肢に見えるもの
  （`-` で始まるもの）が来たら、待っていた選択肢は値なしのまま片づけられる。
* 選択肢の値は、次の選択肢が来たとき（または最後）に確かめる。知らない引数に出会ったら、
  確かめずにその誤りを返す。
* 確かめる順：値がない、二度目の指定、値が読めない。
* `-h` と `-V` は、そこまでに待っていた値を確かめた後、すぐに表示して終わる。
* 知らない長い選択肢には、名前の似た選択肢を勧める（Jaro 類似度が 0.7 を超えるもののうち
  最も似たもの）。
* 設定の file の名前は空にできない（値がないのと同じ誤り）。

## 使い方の行

誤りの文に添える使い方の行は、ふつう `[OPTIONS]` と書く。知らない長い選択肢の誤りと、
値をとらない選択肢に値を付けた誤りでは、代わりにそこまでに受け取った選択肢を並べる。

* 受け取った選択肢とは、値を受け取った選択肢（受け取った順）。値が読めなかったものも
  含み、値がなかったものは含まない。二度目の指定はその選択肢を外す。
* 知らない長い選択肢の誤りでは、待っていた選択肢を片づけた後の並びに、勧める選択肢を
  （まだなければ）足す。
* 値をとらない選択肢に値を付けた誤りでは、待っていた選択肢は片づけず、その選択肢を足す。
  このとき値をとる選択肢は一つの組をなし、一つでも受け取っていれば、一つ一つではなく組の
  形 `<--config <CONFIG>|--port <PORT>|...>` を、値をとらない選択肢の後に一度だけ書く。
-/

namespace TankDrive.Cli

/-- 命令行の選択肢。 -/
inductive Opt where
  | config
  | device
  | baud
  | deadline
  | poll
  | maxSpeed
  | help
  | version
deriving Repr, DecidableEq, Inhabited

namespace Opt

/-- 定義の順の選択肢。 -/
def all : List Opt := [.config, .device, .baud, .deadline, .poll, .maxSpeed, .help, .version]

/-- 長い名前。 -/
def long : Opt → String
  | .config => "config"
  | .device => "port"
  | .baud => "baud"
  | .deadline => "deadline-ms"
  | .poll => "poll-ms"
  | .maxSpeed => "max-speed"
  | .help => "help"
  | .version => "version"

/-- 短い名前。 -/
def short : Opt → Option Char
  | .config => some 'c'
  | .device => some 'p'
  | .baud => some 'b'
  | .help => some 'h'
  | .version => some 'V'
  | _ => none

/-- 値の名前。表示の選択肢には値がない。 -/
def valueName : Opt → Option String
  | .config => some "CONFIG"
  | .device => some "PORT"
  | .baud => some "BAUD"
  | .deadline => some "DEADLINE_MS"
  | .poll => some "POLL_MS"
  | .maxSpeed => some "MAX_SPEED"
  | _ => none

/-- 誤りの文に出る形。 -/
def display (o : Opt) : String :=
  match o.valueName with
  | some v => "--" ++ o.long ++ " <" ++ v ++ ">"
  | none => "--" ++ o.long

/-- 長い名前から選択肢を探す。 -/
def ofLong? (s : String) : Option Opt := all.find? (·.long == s)

/-- 短い名前から選択肢を探す。 -/
def ofShort? (c : Char) : Option Opt := all.find? (·.short == some c)

end Opt

/-- 読んだ命令行。 -/
structure Args where
  config : Option String := none
  device : Option String := none
  baud : Option Nat := none
  deadlineMs : Option Nat := none
  pollMs : Option Nat := none
  maxSpeed : Option Int := none

/-- 引数を読み終える前に止まる理由。 -/
inductive Stop where
  | help
  | version
  | unknown (arg : String) (suggestion : Option Opt) (used : List Opt)
  | missingValue (o : Opt)
  | invalidValue (o : Opt) (raw : String) (reason : String)
  | repeated (o : Opt)
  | unexpectedValue (o : Opt) (value : String) (used : List Opt)

/-- 整数の文字列の誤り。 -/
inductive IntError where
  | empty
  | invalidDigit
  | tooLarge
  | tooSmall

/-- 整数の誤りの文。 -/
def IntError.message : IntError → String
  | .empty => "cannot parse integer from empty string"
  | .invalidDigit => "invalid digit found in string"
  | .tooLarge => "number too large to fit in target type"
  | .tooSmall => "number too small to fit in target type"

/-- 数字を左から読み、`bound` を超えたらそこで止まる。 -/
def readDigits (bound : Nat) (tooBig : IntError) : List Char → Nat → Except IntError Nat
  | [], acc => .ok acc
  | c :: rest, acc =>
    if c.isDigit then
      let acc' := 10 * acc + (c.toNat - 0x30)
      if bound < acc' then .error tooBig else readDigits bound tooBig rest acc'
    else .error .invalidDigit

/-- 符号つき 64 bit の整数として読む。 -/
def parseSigned (s : String) : Except IntError Int :=
  match s.toList with
  | [] => .error .empty
  | ['+'] | ['-'] => .error .invalidDigit
  | '-' :: ds => (readDigits (Nat.pow 2 63) .tooSmall ds 0).map fun n => -(n : Int)
  | '+' :: ds => (readDigits (Nat.pow 2 63 - 1) .tooLarge ds 0).map fun n => (n : Int)
  | ds => (readDigits (Nat.pow 2 63 - 1) .tooLarge ds 0).map fun n => (n : Int)

/-- 符号なし 64 bit の整数として読む。 -/
def parseUnsigned (s : String) : Except IntError Nat :=
  match s.toList with
  | [] => .error .empty
  | ['+'] => .error .invalidDigit
  | '+' :: ds => readDigits (Nat.pow 2 64 - 1) .tooLarge ds 0
  | ds => readDigits (Nat.pow 2 64 - 1) .tooLarge ds 0

/-- 整数を読んで範囲を確かめる。範囲外の誤りの文には読んだ値を書く。 -/
def parseRanged (o : Opt) (lo hi : Int) (raw : String) : Except Stop Int :=
  match parseSigned raw with
  | .error e => .error (.invalidValue o raw e.message)
  | .ok n =>
    if lo ≤ n ∧ n ≤ hi then .ok n
    else .error (.invalidValue o (toString n) (toString n ++ " is not in " ++ toString lo ++ "..=" ++ toString hi))

/-- 選択肢の値を読んで命令行に入れる。 -/
def Args.put (a : Args) (o : Opt) (raw : String) : Except Stop Args :=
  match o with
  | .config => if raw.isEmpty then .error (.missingValue o) else .ok { a with config := some raw }
  | .device => .ok { a with device := some raw }
  | .baud => (parseRanged o 0 (Nat.pow 2 32 - 1) raw).map fun n => { a with baud := some n.toNat }
  | .deadline =>
    match parseUnsigned raw with
    | .ok n => .ok { a with deadlineMs := some n }
    | .error e => .error (.invalidValue o raw e.message)
  | .poll =>
    match parseUnsigned raw with
    | .ok n => .ok { a with pollMs := some n }
    | .error e => .error (.invalidValue o raw e.message)
  | .maxSpeed => (parseRanged o (-32768) 32767 raw).map fun n => { a with maxSpeed := some n }
  | .help => .error .help
  | .version => .error .version

/-- 読みかけの状態。 -/
structure Parsing where
  args : Args := {}
  /-- 受け取った選択肢（受け取った順）。 -/
  present : List Opt := []
  /-- 値を待っている（または受け取ったがまだ確かめていない）選択肢。 -/
  pending : Option (Opt × Option String) := none
  /-- `--` の後か。 -/
  trailing : Bool := false

/-- 選択肢に値を与えた後の、受け取った選択肢の並び。誤りで終わるときも、その誤りまでに
変わった分は変わる：二度目の指定は外れ、読めない値の選択肢は加わる。 -/
def Parsing.presentAfter (p : Parsing) (o : Opt) (value : Option String) : List Opt :=
  match o, value with
  | .help, _ | .version, _ | _, none => p.present
  | _, some _ => if p.present.contains o then p.present.erase o else p.present ++ [o]

/-- 選択肢に値を与える。 -/
def Parsing.react (p : Parsing) (o : Opt) (value : Option String) : Except Stop Parsing :=
  match o with
  | .help => .error .help
  | .version => .error .version
  | _ =>
    match value with
    | none => .error (.missingValue o)
    | some v =>
      if p.present.contains o then .error (.repeated o)
      else do
        let a ← p.args.put o v
        pure { p with args := a, present := p.presentAfter o value }

/-- 待っている選択肢を片づける。 -/
def Parsing.resolve (p : Parsing) : Except Stop Parsing :=
  match p.pending with
  | none => .ok p
  | some (o, v) => { p with pending := none }.react o v

/-- 待っている選択肢を片づけた後の状態。誤りは捨てる（受け取った選択肢の並びは誤りまでの
分だけ変わる）。 -/
def Parsing.settled (p : Parsing) : Parsing :=
  match p.pending with
  | none => p
  | some (o, v) => { p with pending := none, present := p.presentAfter o v }

/-- 待っていた値を確かめてから、選択肢に値を与える。 -/
def Parsing.accept (p : Parsing) (o : Opt) (value : Option String) : Except Stop Parsing := do
  let p ← p.resolve
  p.react o value

/-- 待っていた値を確かめてから、選択肢に値を待たせる。 -/
def Parsing.await (p : Parsing) (o : Opt) : Except Stop Parsing := do
  let p ← p.resolve
  pure { p with pending := some (o, none) }

/-- 二つの文字列の Jaro 類似度。binary64 で、割り算と足し算の順も定めのとおりに計算する
（0.7 との比べ方と、同じ値どうしの順がそれで決まるので）。 -/
def jaro (a b : List Char) : Float :=
  let la := a.length
  let lb := b.length
  if la = 0 ∧ lb = 0 then Binary64.ofNat 1 else if la = 0 ∨ lb = 0 then Binary64.ofNat 0 else
  let range := (max la lb) / 2 - 1
  -- a の各文字に、窓の中でまだ使っていない同じ文字を b から選ぶ
  let step (acc : List Bool × List Bool) (ic : Nat × Char) : List Bool × List Bool :=
    let (aFlags, bFlags) := acc
    let (i, c) := ic
    let lo := i - range
    let hi := min lb (i + range + 1)
    match (List.range hi).find? (fun j => lo ≤ j ∧ b[j]? = some c ∧ bFlags[j]? = some false) with
    | some j => (aFlags ++ [true], bFlags.set j true)
    | none => (aFlags ++ [false], bFlags)
  let (aFlags, bFlags) := a.zipIdx.foldl (fun acc (c, i) => step acc (i, c)) ([], List.replicate lb false)
  let ma := (a.zip aFlags).filterMap fun (c, f) => if f then some c else none
  let mb := (b.zip bFlags).filterMap fun (c, f) => if f then some c else none
  let m := ma.length
  if m = 0 then Binary64.ofNat 0 else
  let t := ((ma.zip mb).filter fun (x, y) => x ≠ y).length / 2
  let f := Binary64.ofNat
  (f m / f la + f m / f lb + f (m - t) / f m) / f 3

/-- 勧める下限の 0.7。 -/
def suggestThreshold : Float := Binary64.ofDecimal false 7 (-1)

/-- 名前の似た長い選択肢。類似度が 0.7 を超えるもののうち最も似たもの（同じなら後のもの）。 -/
def suggest (name : String) : Option Opt :=
  let scored := Opt.all.filterMap fun o =>
    let c := jaro name.toList o.long.toList
    if suggestThreshold < c then some (o, c) else none
  let best := scored.foldl (fun (acc : Option (Opt × Float)) x =>
    match acc with
    | some (_, c) => if c ≤ x.2 then some x else acc
    | none => some x) none
  best.map (·.1)

/-- 並びの終わりに、まだなければ足す。 -/
def appendNew (os : List Opt) (o : Opt) : List Opt :=
  if os.contains o then os else os ++ [o]

/-- 長い選択肢 `--name` または `--name=value`。 -/
def Parsing.longArg (p : Parsing) (body : String) : Except Stop Parsing :=
  let (name, value) := match body.splitOn "=" with
    | [n] => (n, none)
    | n :: rest => (n, some ("=".intercalate rest))
    | [] => (body, none)
  match Opt.ofLong? name with
  | some o =>
    if o.valueName.isSome then
      match value with
      | some v => p.accept o (some v)
      | none => p.await o
    else
      match value with
      | some v => .error (.unexpectedValue o v (appendNew p.present o))
      | none => p.accept o none
  | none =>
    let sug := suggest name
    let used := p.settled.present
    .error (.unknown ("--" ++ name) sug (match sug with | some o => appendNew used o | none => used))

/-- 短い選択肢のまとまり `-abc`。 -/
def Parsing.shortArgs (p : Parsing) : List Char → Except Stop Parsing
  | [] => .ok p
  | c :: rest =>
    match Opt.ofShort? c with
    | some o =>
      if o.valueName.isSome then
        if rest.isEmpty then p.await o
        else
          let v := match rest with
            | '=' :: r => String.ofList r
            | r => String.ofList r
          p.accept o (some v)
      else do
        let p ← p.accept o none
        p.shortArgs rest
    | none => .error (.unknown ("-" ++ String.singleton c) none [])

/-- 引数を一つ読む。 -/
def Parsing.feed (p : Parsing) (arg : String) : Except Stop Parsing :=
  if p.trailing then .error (.unknown arg none [])
  else if arg = "--" then .ok { p with trailing := true }
  else if arg.startsWith "--" then p.longArg (String.ofList (arg.toList.drop 2))
  else if arg.startsWith "-" ∧ arg ≠ "-" then p.shortArgs (arg.toList.drop 1)
  else
    match p.pending with
    | some (o, none) => .ok { p with pending := some (o, some arg) }
    | _ => .error (.unknown arg none [])

/-- 引数を全部読む。 -/
def parse (args : List String) : Except Stop Args := do
  let p ← args.foldlM Parsing.feed {}
  let p ← p.resolve
  pure p.args

/-- 使い方の一行。 -/
def usage : String := "Usage: tank-drive-runtime [OPTIONS]"

/-- 受け取った選択肢を並べた使い方の一行。並びが空なら `usage`。 -/
def usageWith (used : List Opt) : String :=
  if used.isEmpty then usage
  else "Usage: tank-drive-runtime" ++ String.join (used.map fun o => " " ++ o.display)

/-- 値をとる選択肢の組の表示。定義の順に `|` で区切って `<` と `>` で囲む。 -/
def groupDisplay : String :=
  "<" ++ "|".intercalate ((Opt.all.filter (·.valueName.isSome)).map Opt.display) ++ ">"

/-- 受け取った選択肢を並べた使い方の一行で、値をとる選択肢を組の表示にまとめたもの。
値をとらない選択肢を受け取った順に並べ、値をとる選択肢が一つでもあれば組をその後に置く。 -/
def usageGrouped (used : List Opt) : String :=
  let loose := (used.filter (·.valueName.isNone)).map Opt.display
  let group := if used.any (·.valueName.isSome) then [groupDisplay] else []
  "Usage: tank-drive-runtime" ++ String.join ((loose ++ group).map (" " ++ ·))

/-- help の表示。 -/
def helpLines : List String :=
  ["Drive runtime for the tracked base", "", usage, "", "Options:",
    "  -c, --config <CONFIG>            JSON config file (defaults are used for anything it leaves out)",
    "  -p, --port <PORT>                Serial port of the motor controller board",
    "  -b, --baud <BAUD>                Serial baud rate",
    "      --deadline-ms <DEADLINE_MS>  Watchdog deadline in milliseconds",
    "      --poll-ms <POLL_MS>          Watchdog poll interval in milliseconds",
    "      --max-speed <MAX_SPEED>      Speed magnitude at full throttle (both tracks)",
    "  -h, --help                       Print help",
    "  -V, --version                    Print version"]

/-- 版の表示。 -/
def versionLine : String := "tank-drive-runtime 0.1.0"

/-- 誤りの文の締め。 -/
def moreInfo : String := "For more information, try '--help'.\n"

/-- 止まった理由の表示：標準出力の行か、標準誤差の文。 -/
def Stop.render : Stop → Sum (List String) String
  | .help => .inl helpLines
  | .version => .inl [versionLine]
  | .unknown arg sug used =>
    let tip := match sug with
      | some o => "  tip: a similar argument exists: '--" ++ o.long ++ "'\n\n"
      | none => ""
    .inr ("error: unexpected argument '" ++ arg ++ "' found\n\n" ++ tip ++ usageWith used ++ "\n\n" ++
      moreInfo)
  | .missingValue o =>
    .inr ("error: a value is required for '" ++ o.display ++ "' but none was supplied\n\n" ++ moreInfo)
  | .invalidValue o raw why =>
    .inr ("error: invalid value '" ++ raw ++ "' for '" ++ o.display ++ "': " ++ why ++ "\n\n" ++ moreInfo)
  | .repeated o =>
    .inr ("error: the argument '" ++ o.display ++ "' cannot be used multiple times\n\n" ++ usage ++
      "\n\n" ++ moreInfo)
  | .unexpectedValue o v used =>
    .inr ("error: unexpected value '" ++ v ++ "' for '" ++ o.display ++ "' found; no more were expected\n\n" ++
      usageGrouped used ++ "\n\n" ++ moreInfo)

end TankDrive.Cli
