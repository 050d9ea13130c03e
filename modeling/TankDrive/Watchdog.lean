import TankDrive.Controller.Drive
import TankDrive.Messages
/-!
# Watchdog

一定の間隔で最後の指令の古さを確かめ、期限を過ぎて動いていれば両側を止める。

* 新しい：武装に戻る（作動していたなら記録する）。
* 止まっている：何もしない。
* 止めた：作動し、経過時間と期限を記録する。
* 止められなかった：状態は変えず、次の見回りでまた試す。続けて失敗したときは軽く記録する。

どの場合も最後に受信を読んで電圧を新しくする。
-/

namespace TankDrive

open Controller

/-- watchdog。時間は ms。 -/
structure Watchdog where
  deadlineMs : Nat
  pollMs : Nat
  alarm : Alarm := .armed
  /-- 前の見回りで止められなかったか。 -/
  failing : Bool := false

/-- 設定から watchdog を作る。 -/
def Watchdog.ofConfig (c : Config) : Watchdog := { deadlineMs := c.deadlineMs, pollMs := c.pollMs }

/-- ns を ms に（切り捨て）。 -/
def millis (ns : Nat) : Nat := ns / 1000000

/-- 時刻 `now`（ns）で一回見回る。 -/
def Watchdog.tick (w : Watchdog) (setup : Setup) (now : Nat) : Act Watchdog := do
  let r ← (stopIfStale setup (w.deadlineMs * 1000000) now).attempt
  let w' ← match r with
    | .ok .fresh => do
      if w.alarm = .tripped then emit .info .watchdog "Fresh command received, watchdog re-armed"
      pure { w with alarm := .armed, failing := false }
    | .ok .idle => pure { w with failing := false }
    | .ok (.tripped elapsed) => do
      emit .warn .watchdog ("Command stale (" ++ toString (millis elapsed) ++ " ms old, deadline " ++
        toString w.deadlineMs ++ " ms), motors stopped")
      pure { w with alarm := .tripped, failing := false }
    | .error e => do
      if w.failing then emit .debug .watchdog ("Forced stop still failing: " ++ e.message)
      else emit .error .watchdog ("Watchdog failed to stop motors: " ++ e.message)
      pure { w with failing := true }
  discard refreshTelemetry
  pure w'

end TankDrive
