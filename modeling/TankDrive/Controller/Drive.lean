import TankDrive.Controller.Link
import TankDrive.Decimal.Notation
/-!
# 走行の操作

* `setEsc`：スロットルが NaN なら何もせずに断る。`[-1, 1]` に寄せ、逆向きの側なら符号を
  変え、速度にして packet を書く。書けたら時刻とスロットルを更新し、両側が 0 なら停止と
  みなし、受信を読む。
* `stopAll`：両側に中立の速度を書く。一方が失敗しても他方を試し、最初の誤りを返す。
  受信を読んだ後、両側とも書けたときだけスロットルを 0 にして停止とする。
* `stopIfStale`：最後の指令から期限を過ぎていて、まだ動いていれば止める。
* `cleanup`：最初の一回だけ、止めて、設定の時間だけ待ってから線を閉じる。
* `start`：線を開いた直後に両側を止める。失敗すれば後始末は済んだものとして誤りを返す。

受信した byte は telemetry の切り出しに渡し、電圧が読めたら記録して覚える。閉じた線からの
受信は黙って何もしない。
-/

namespace TankDrive.Controller

open Wire

/-- 片側の速度の packet を作り、記録する。 -/
def announce (side : Track) (speed : Int) : Op Packet := do
  let p ← liftExcept ((Packet.encode side.slave speed driveState).mapError .packet)
  emit .debug .controller (side.label ++ " track: speed=" ++ toString p.speed)
  pure p
where
  liftExcept {α : Type} : Except Error α → Op α
    | .ok a => pure a
    | .error e => throw e

/-- 片側に速度を送る。 -/
def send (side : Track) (speed : Int) : Op Unit := do
  let p ← announce side speed
  writePacket p.bytes

/-- 受信を読み、telemetry から電圧を拾う。 -/
def pollTelemetry : Act Unit := do
  match ← readAvailable.attempt with
  | .ok data =>
    let m ← get
    let fed := m.telemetry.feed data
    if 0 < fed.discarded then
      emit .debug .telemetry ("Discarding " ++ toString fed.discarded ++ " telemetry bytes")
    modify fun m => { m with telemetry := fed.next }
    match fed.voltage with
    | some v =>
      emit .debug .controller ("Battery voltage: " ++ Decimal.fixed 2 v ++ " V")
      modify fun m => { m with motor := { m.motor with voltage := v } }
    | none => pure ()
  | .error (.link .closed) => pure ()
  | .error e => emit .warn .controller ("Failed to read telemetry: " ++ e.message)

/-- 片側の中立の速度。 -/
def neutralSpeed (setup : Setup) (side : Track) : Except Error Int :=
  ((setup.sides.get side).range.speed 0.0).mapError .throttle

/-- `setEsc` の前半：確かめて、速度を決め、packet を記録する。寄せたスロットルも返す。 -/
def prepareSetEsc (setup : Setup) (side : Track) (throttle : Float) : Op (Float × Packet) := do
  if throttle.isNaN then throw (.throttle .notANumber)
  let t := Throttle.clampUnit throttle
  let cfg := setup.sides.get side
  let directed := if cfg.inverted then -t else t
  match cfg.range.speed directed with
  | .error e => throw (.throttle e)
  | .ok speed =>
    let p ← announce side speed
    pure (t, p)

/-- `setEsc` の後半：packet を書き、状態を更新し、受信を読む。 -/
def finishSetEsc (side : Track) (t : Float) (p : Packet) : Op Unit := do
  writePacket p.bytes
  modify fun m =>
    let th := m.motor.throttle.set side t
    { m with motor := { m.motor with
        lastCommand := m.clock, throttle := th, stopped := th.left == 0.0 && th.right == 0.0 } }
  pollTelemetry

/-- 片側にスロットルを指令する。 -/
def setEsc (setup : Setup) (side : Track) (throttle : Float) : Op Unit := do
  let (t, p) ← prepareSetEsc setup side throttle
  finishSetEsc side t p

/-- 片側を中立にする。失敗は記録して返す。 -/
def stopTrack (setup : Setup) (side : Track) : Act (Option Error) := do
  let r ← (do
    match neutralSpeed setup side with
    | .error e => throw e
    | .ok speed => send side speed : Op Unit).attempt
  match r with
  | .ok () => pure none
  | .error e =>
    emit .warn .controller ("Failed to stop " ++ side.label ++ " track: " ++ e.message)
    pure (some e)

/-- 両側を中立にする。 -/
def stopAll (setup : Setup) : Op Unit := do
  let e1 ← stopTrack setup .left
  let e2 ← stopTrack setup .right
  pollTelemetry
  match e1 <|> e2 with
  | some e => throw e
  | none =>
    modify fun m => { m with motor := { m.motor with throttle := PerTrack.both 0.0, stopped := true } }

/-- 期限の確かめの結果。 -/
inductive Staleness where
  /-- 最後の指令は期限内。 -/
  | fresh
  /-- 期限を過ぎたが、すでに止まっている。 -/
  | idle
  /-- 期限を過ぎて動いていたので止めた。`elapsed` は経過時間（ns）。 -/
  | tripped (elapsed : Nat)

/-- 時刻 `now` で、最後の指令が期限（ns）を過ぎていて動いていれば止める。 -/
def stopIfStale (setup : Setup) (deadline now : Nat) : Op Staleness := do
  let m ← get
  let elapsed := now - m.motor.lastCommand
  if elapsed ≤ deadline then pure .fresh
  else if m.motor.stopped then pure .idle
  else
    stopAll setup
    pure (.tripped elapsed)

/-- 受信を読んで、最新の電圧を返す。 -/
def refreshTelemetry : Act Float := do
  pollTelemetry
  pure (← get).motor.voltage

/-- 後始末の始まり。すでに始めていれば `false`。 -/
def beginCleanup : Act Bool := do
  let m ← get
  if m.done then pure false
  else
    set { m with done := true }
    emit .info .controller "Shutting down motor controller"
    pure true

/-- 後始末の停止。失敗は記録するだけ。 -/
def finalStop (setup : Setup) : Act Unit := do
  match ← (stopAll setup).attempt with
  | .ok () => pure ()
  | .error e => emit .warn .controller ("Failed to stop motors during cleanup: " ++ e.message)

/-- 線がふさがっていて、後始末の停止を飛ばす。 -/
def skipFinalStop : Act Unit :=
  emit .warn .controller "Motor link busy, skipping final stop command"

/-- 停止の指令が効くのを待つ：時計を `settleMs` ms 進める。 -/
def settle (setup : Setup) : Act Unit :=
  modify fun m => { m with clock := m.clock + setup.settleMs * 1000000 }

/-- 後始末：最初の一回だけ、止めて、落ち着くのを待ってから線を閉じる。 -/
def cleanup (setup : Setup) : Act Unit := do
  if ← beginCleanup then
    finalStop setup
    settle setup
    closeLink

/-- 線を開いた直後に両側を止める。失敗すれば後始末は済んだものとする。 -/
def start (setup : Setup) : Op Unit := do
  let r : Except Error Unit ← (Op.attempt (stopAll setup) : Act (Except Error Unit))
  match r with
  | .error e =>
    modify fun m => { m with done := true }
    throw e
  | .ok () =>
    let m ← get
    emit .info .controller ("Motor controller ready on " ++ m.name ++ ", both tracks at neutral")

end TankDrive.Controller
