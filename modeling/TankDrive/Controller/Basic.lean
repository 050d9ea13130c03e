import TankDrive.Config
import TankDrive.Device
import TankDrive.Telemetry
import TankDrive.Log
import TankDrive.Wire.Packet
/-!
# 走行制御器の状態

制御器は線（名前と、開いているか）、線の向こうの装置、走行の状態、telemetry の切り出し、
後始末を始めたかの印、時計、記録を一つの `Machine` に持つ。

操作は `Act`：`Machine` を書き換え、記録を足し、書き込みの中断（`Abort`）で途中で止まる
ことがある。止まっても、そこまでの書き換えと記録は残る。失敗しうる操作は `Op`：
`Act` の上に走行の誤り（`Error`）を重ねたもの。
-/

namespace TankDrive.Controller

/-- 線の誤り。 -/
inductive LinkError where
  /-- 端末を開けない。理由は OS の説明。 -/
  | serial (reason : String)
  /-- 読み書きの失敗。 -/
  | io (reason : String)
  | closed
deriving Repr, DecidableEq

/-- 線の誤りの文。 -/
def LinkError.message : LinkError → String
  | .serial r => "Serial port error: " ++ r
  | .io r => "IO error: " ++ r
  | .closed => "Serial link is closed"

/-- 走行の誤り。 -/
inductive Error where
  | link (e : LinkError)
  | packet (e : Wire.PacketError)
  | throttle (e : Throttle.Error)

/-- 走行の誤りの文。 -/
def Error.message : Error → String
  | .link e => e.message
  | .packet e => e.message
  | .throttle e => e.message

/-- 走行の状態。 -/
structure MotorState where
  /-- 最後に指令が通った時刻（ns）。 -/
  lastCommand : Nat
  /-- 両側とも 0 を指令しているか。 -/
  stopped : Bool
  /-- 最後に読んだ電池の電圧（まだなければ 0）。 -/
  voltage : Float
  /-- 最後に指令したスロットル（`[-1, 1]` に寄せた値）。 -/
  throttle : PerTrack Float

/-- 制御器と線と装置。 -/
structure Machine where
  /-- 線の名前。 -/
  name : String
  isOpen : Bool
  device : Device
  motor : MotorState
  telemetry : Telemetry.Extractor
  /-- 後始末を始めたか。 -/
  done : Bool
  /-- 今の時刻（ns）。 -/
  clock : Nat
  /-- これまでの記録。古い順。 -/
  log : List Log.Line

/-- 制御器の変わらない設定。 -/
structure Setup where
  sides : PerTrack TrackConfig
  settleMs : Nat

/-- 設定から制御器の設定を取り出す。 -/
def Setup.ofConfig (c : Config) : Setup := ⟨⟨c.left, c.right⟩, c.settleMs⟩

/-- 線を開いたばかりの制御器。両側とも停止、電圧 0。 -/
def Machine.fresh (name : String) (device : Device) (clock : Nat) : Machine where
  name := name
  isOpen := true
  device := device
  motor := ⟨clock, true, 0.0, PerTrack.both 0.0⟩
  telemetry := {}
  done := false
  clock := clock
  log := []

/-- 書き込みの中断。 -/
structure Abort where
  reason : String

/-- 制御器の上の操作。中断すると止まるが、状態は残る。 -/
abbrev Act := ExceptT Abort (StateM Machine)

/-- 失敗しうる操作。 -/
abbrev Op := ExceptT Error Act

/-- 記録に一行足す。 -/
def emit (level : Log.Level) (source : Log.Source) (text : String) : Act Unit :=
  modify fun m => { m with log := m.log ++ [⟨level, source, text⟩] }

/-- 操作の結果を誤りも含めて受け取る。 -/
def Op.attempt (op : Op α) : Act (Except Error α) := op.run

end TankDrive.Controller
