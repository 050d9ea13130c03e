import TankDrive.Cli.Args
import TankDrive.Config.Json
import TankDrive.Controller.Link
/-!
# 命令行の動き

命令行から動くときの順は次のとおり。

1. 引数を読む。help と版はそこで標準出力に出して終わる（終了 0）。読めなければ標準誤差に
   誤りと使い方を出して終わる（終了 2）。
2. 設定を決める。設定の file があれば読んで確かめ、そこに引数の値を上書きして、もう一度
   確かめる。だめなら `Config error: ...`（終了 2）。
3. 線を開く。開くときの記録を filter を通して出し、開けなければ `Runtime error: ...`
   （終了 1）。開ければ、ここから先は命令の受け口の仕事になる。

外の世界（file を読むこと、端末を開くこと）は `Host` が与える。試験台では純粋な `Host` を、
実行形式では本物の入出力を渡す。
-/

namespace TankDrive.Cli

/-- 命令行の終わり方。 -/
structure Outcome where
  exit : Nat
  stdout : List String := []
  stderr : String := ""

/-- 標準出力を行に分けたもの。書いた一行の中に改行があれば、そこでも分かれる。
改行で区切り、行末の復帰（`\r`）を一つ除く。 -/
def Outcome.stdoutLines (o : Outcome) : List String :=
  o.stdout.flatMap fun line =>
    (line.splitOn "\n").map fun piece =>
      if piece.endsWith "\r" then String.ofList piece.toList.dropLast else piece

/-- 止まった理由の終わり方。help と版は終了 0、ほかは 2。 -/
def Stop.outcome (s : Stop) : Outcome :=
  match s.render with
  | .inl lines => ⟨0, lines, ""⟩
  | .inr text => ⟨2, [], text⟩

/-- 命令行が触る外の世界。 -/
structure Host (m : Type → Type) where
  /-- file を読む。失敗なら OS の説明。 -/
  readFile : String → m (Except String String)
  /-- serial 端末として開く。失敗なら OS の説明。 -/
  openTerminal : String → m (Except String Unit)

/-- 設定の file を読んだ結果から、確かめた設定を作る。命令行は file の数を、仮数を 64 bit に
収めてから 10 の冪を掛ける方法で binary64 にする。 -/
def loadConfig (read : Except String String) : Except Config.Error Config := do
  let text ← read.mapError .unreadable
  let c ← (Config.parseWith .scaled text).mapError .parse
  Config.check c
  pure c

/-- 命令行の値で設定を上書きする。 -/
def Args.apply (a : Args) (c : Config) : Config :=
  let c := match a.device with | some d => { c with device := d } | none => c
  let c := match a.baud with | some b => { c with baud := b } | none => c
  let c := match a.deadlineMs with | some d => { c with deadlineMs := d } | none => c
  let c := match a.pollMs with | some p => { c with pollMs := p } | none => c
  match a.maxSpeed with | some s => c.withMaxSpeed s | none => c

/-- 引数と、読んだ設定の file（あれば）から、動く設定を決める。 -/
def configure (a : Args) (file : Option (Except String String)) : Except Config.Error Config := do
  let c ← match file with
    | some r => loadConfig r
    | none => pure {}
  let c := a.apply c
  Config.check c
  pure c

/-- 命令行の行き着く先。 -/
inductive Result where
  /-- 終わった。 -/
  | done (o : Outcome)
  /-- 線が開いた。ここまでの標準出力の行と、動く設定。 -/
  | ready (config : Config) (stdout : List String)

/-- 記録の行を filter に通して標準出力の行にする。 -/
def printed (filter : Log.Filter) (lines : List Log.Line) : List String :=
  (lines.filter filter.allows).map Log.Line.render

/-- 命令行を動かす。`filter` は環境が選ぶ記録の filter。 -/
def run {m : Type → Type} [Monad m] (host : Host m) (filter : Log.Filter) (args : List String) :
    m Result := do
  match parse args with
  | .error s => pure (.done s.outcome)
  | .ok a =>
    let file ← match a.config with
      | some p => some <$> host.readFile p
      | none => pure none
    match configure a file with
    | .error e => pure (.done ⟨2, [], "Config error: " ++ e.message ++ "\n"⟩)
    | .ok c =>
      let out := printed filter [Controller.openingLine c.device c.baud]
      match ← host.openTerminal c.device with
      | .error r =>
        let e : Controller.Error := .link (.serial r)
        pure (.done ⟨1, out, "Runtime error: " ++ e.message ++ "\n"⟩)
      | .ok () => pure (.ready c out)

end TankDrive.Cli
