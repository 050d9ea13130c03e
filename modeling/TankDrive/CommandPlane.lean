import TankDrive.Controller.Drive
import TankDrive.Messages
/-!
# 指令の受け口

届いた走行の指令を左、右の順に制御器へ渡し（左が失敗すれば右は送らない）、停止の要求で
両側を止める。結果から線の健康を覚える：線の誤りで落ち、成功で戻る（変わったときだけ
記録する）。線以外の誤り（NaN のスロットルなど）は指令を断ったと記録するだけ。
-/

namespace TankDrive

open Controller

/-- 指令の受け口。 -/
structure CommandPlane where
  /-- 線が生きているか。 -/
  linkOk : Bool := true

instance : Inhabited CommandPlane := ⟨{}⟩

/-- 操作の結果から線の健康を更新する。 -/
def CommandPlane.record (p : CommandPlane) (r : Except Error Unit) : Act CommandPlane := do
  match r with
  | .ok () =>
    if !p.linkOk then emit .info .commandPlane "Motor link recovered"
    pure { p with linkOk := true }
  | .error (.link e) =>
    if p.linkOk then emit .error .commandPlane ("Motor link failure: " ++ e.message)
    pure { p with linkOk := false }
  | .error e =>
    emit .warn .commandPlane ("Rejected motor command: " ++ e.message)
    pure p

/-- 指令を記録に書く形。 -/
def DriveCommand.describe (c : DriveCommand) : String :=
  "MotorCommand \x7b left: " ++ Decimal.Notation.debug.render c.left ++ ", right: " ++
    Decimal.Notation.debug.render c.right ++ " \x7d"

/-- 走行の指令を受ける。 -/
def CommandPlane.onCommand (p : CommandPlane) (setup : Setup) (c : DriveCommand) :
    Act CommandPlane := do
  emit .debug .commandPlane ("Received command: " ++ c.describe)
  let r ← (do setEsc setup .left c.left; setEsc setup .right c.right : Op Unit).attempt
  p.record r

/-- 停止の要求を受ける。 -/
def CommandPlane.onStop (p : CommandPlane) (setup : Setup) : Act CommandPlane := do
  emit .info .commandPlane "Stop requested"
  let r ← (stopAll setup).attempt
  p.record r

/-- 状態の知らせを作る。 -/
def CommandPlane.status (p : CommandPlane) (alarm : Alarm) : Act DriveStatus := do
  let m ← get
  let health := if p.linkOk then Health.ofAlarm alarm else .linkDown
  pure ⟨m.motor.voltage, m.motor.stopped, health⟩

end TankDrive
