import TankDrive.Controller.Basic
import TankDrive.Wire.Hex
/-!
# 線の上の読み書き

閉じた線への読み書きは `closed` の誤り。書けたら、書いた byte を記録に残す。
受信は、待ち行列の長さを問い、0 でなければ全部読む。閉じるのは開いているときだけ記録する。
-/

namespace TankDrive.Controller

open Wire

/-- byte 列を線に書く。 -/
def writePacket (data : Bytes) : Op Unit := do
  let m ← get
  if !m.isOpen then throw (.link .closed)
  match m.device.write data with
  | .aborted r => throwThe Abort ⟨r⟩
  | .failed r => throw (.link (.io r))
  | .ok d =>
    set { m with device := d }
    emit .debug .link ("Sent " ++ Hex.bracketed data)

/-- 受信の待ち行列を読む。 -/
def readAvailable : Op Bytes := do
  let m ← get
  if !m.isOpen then throw (.link .closed)
  match m.device.available with
  | .error r => throw (.link (.io r))
  | .ok 0 => pure []
  | .ok _ =>
    let (data, d) := m.device.drain
    set { m with device := d }
    pure data

/-- 線を開くときの記録。 -/
def openingLine (name : String) (baud : Nat) : Log.Line :=
  ⟨.info, .link, "Opening serial link on " ++ name ++ " @ " ++ toString baud ++ " baud"⟩

/-- 線を閉じる。開いていたときだけ記録する。 -/
def closeLink : Act Unit := do
  let m ← get
  if m.isOpen then
    set { m with isOpen := false }
    emit .info .link ("Closed serial link " ++ m.name)

end TankDrive.Controller
