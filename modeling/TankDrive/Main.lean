import TankDrive.Cli.Program
/-!
# 実行形式

命令行を本物の入出力の上で動かす。file は OS から読み、serial 端末は読み書きで開いて
端末かどうかを確かめる。記録の filter は環境変数 `RUST_LOG` から作る。

線が開いた後の命令の受け口はこの実行形式にはないので、そこまでの記録を出して終了 0 で終わる。
-/

namespace TankDrive.Cli

/-- 記録の filter を選ぶ環境変数。 -/
def filterVariable : String := "RUST_LOG"

/-- 入出力の誤りの OS の説明と誤り番号。存在しない path は、どの経路で読んでも同じ
説明と番号にそろえる。番号のない誤りは `none`。 -/
def osReason : IO.Error → Option (String × UInt32)
  | .noFileOrDirectory .. => some ("No such file or directory", 2)
  | .alreadyExists _ c d | .otherError c d | .resourceBusy c d | .resourceVanished c d
  | .unsupportedOperation c d | .hardwareFault c d | .unsatisfiedConstraints c d
  | .illegalOperation c d | .protocolError c d | .timeExpired c d | .interrupted _ c d
  | .invalidArgument _ c d | .permissionDenied _ c d
  | .resourceExhausted _ c d | .inappropriateType _ c d | .noSuchThing _ c d => some (d, c)
  | _ => none

/-- 端末を開く誤りの文：OS の説明だけ。 -/
def terminalReason (e : IO.Error) : String :=
  match osReason e with
  | some (d, _) => d
  | none => toString e

/-- file を読む誤りの文：OS の説明と誤り番号。 -/
def fileReason (e : IO.Error) : String :=
  match osReason e with
  | some (d, c) => d ++ " (os error " ++ toString c ++ ")"
  | none => toString e

/-- 本物の入出力。 -/
def systemHost : Host IO where
  readFile p := do
    try
      pure (.ok (← IO.FS.readFile p))
    catch e =>
      pure (.error (fileReason e))
  openTerminal p := do
    try
      let h ← IO.FS.Handle.mk p .readWrite
      if ← h.isTty then pure (.ok ()) else pure (.error "Not a typewriter")
    catch e =>
      pure (.error (terminalReason e))

end TankDrive.Cli

/-- 命令行の入口。 -/
def main (args : List String) : IO UInt32 := do
  let filter := TankDrive.Log.Filter.ofEnv (← IO.getEnv TankDrive.Cli.filterVariable)
  let o : TankDrive.Cli.Outcome := match ← TankDrive.Cli.run TankDrive.Cli.systemHost filter args with
    | .done o => o
    | .ready _ out => ⟨0, out, ""⟩
  for line in o.stdout do
    IO.println line
  IO.eprint o.stderr
  pure o.exit.toUInt32
