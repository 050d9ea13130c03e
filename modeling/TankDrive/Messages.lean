import TankDrive.Track
/-!
# 指令と状態の知らせ

指令の側から届く走行の指令（左右のスロットル、欠けた側は 0）と停止の要求、制御器から
知らせる状態（電圧、停止しているか、健康状態）。健康状態は、線が落ちていれば
`linkDown`、そうでなければ watchdog が武装していれば `ok`、作動していれば `cmdStale`。
-/

namespace TankDrive

/-- 走行の指令。 -/
structure DriveCommand where
  left : Float := 0.0
  right : Float := 0.0

instance : Inhabited DriveCommand := ⟨{}⟩

/-- 停止の要求。中身はない。 -/
structure StopRequest where
deriving Inhabited

/-- watchdog の状態。 -/
inductive Alarm where
  /-- 指令が新しいか、止まっている。 -/
  | armed
  /-- 古い指令で止めた。次の新しい指令で戻る。 -/
  | tripped
deriving Repr, DecidableEq, Inhabited

/-- 状態の名前。 -/
def Alarm.key : Alarm → String
  | .armed => "armed"
  | .tripped => "tripped"

/-- 健康状態。 -/
inductive Health where
  | ok
  | cmdStale
  | linkDown
deriving Repr, DecidableEq, Inhabited

/-- 健康状態の名前。 -/
def Health.key : Health → String
  | .ok => "ok"
  | .cmdStale => "cmd_stale"
  | .linkDown => "link_down"

/-- watchdog の状態から決まる健康状態。 -/
def Health.ofAlarm : Alarm → Health
  | .armed => .ok
  | .tripped => .cmdStale

/-- 状態の知らせ。 -/
structure DriveStatus where
  voltage : Float
  stopped : Bool
  health : Health

end TankDrive
