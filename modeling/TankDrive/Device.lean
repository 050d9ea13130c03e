import TankDrive.Wire.Crc
/-!
# 線の向こうの装置

制御器が書いた byte を順に貯め、基板から届いた byte を受信の待ち行列に置く装置。
書き込みと読み出しには故障を起こせる：

* 書き込みの失敗（`failWrites`）：何も貯めず、`mock write failure` の入出力の誤り。
* 読み出しの失敗（`failReads`）：受信の数を問うと `mock read failure` の誤り。
* 書き込みの中断（`abortWrites`）：書き込みの途中で処理全体が止まる（`mock write panic`）。
  止まるまでに起きたことは残る。

本物の serial 端末も、故障を起こせないことを除いて同じように振る舞う。
-/

namespace TankDrive

open Wire

/-- 装置の状態。 -/
structure Device where
  /-- これまでに書かれた byte。 -/
  sent : Bytes := []
  /-- 受信の待ち行列。 -/
  inbox : Bytes := []
  failWrites : Bool := false
  failReads : Bool := false
  abortWrites : Bool := false
deriving Repr, DecidableEq, Inhabited

/-- 書き込みの結果。 -/
inductive Device.Written where
  | ok (d : Device)
  | failed (reason : String)
  | aborted (reason : String)

/-- byte を書く。中断が失敗より先に効く。 -/
def Device.write (d : Device) (data : Bytes) : Device.Written :=
  if d.abortWrites then .aborted "mock write panic"
  else if d.failWrites then .failed "mock write failure"
  else .ok { d with sent := d.sent ++ data }

/-- 受信の待ち行列の長さ。 -/
def Device.available (d : Device) : Except String Nat :=
  if d.failReads then .error "mock read failure" else .ok d.inbox.length

/-- 受信の待ち行列を全部読む。 -/
def Device.drain (d : Device) : Bytes × Device := (d.inbox, { d with inbox := [] })

/-- 基板から byte が届く。 -/
def Device.receive (d : Device) (data : Bytes) : Device := { d with inbox := d.inbox ++ data }

/-- 書き込みが通れば、送った byte に足しただけの装置になる。 -/
theorem Device.eq_of_write_ok {d d' : Device} {data : Bytes} (h : d.write data = .ok d') :
    d' = { d with sent := d.sent ++ data } := by
  unfold Device.write at h
  split at h
  · cases h
  · split at h
    · cases h
    · cases h; rfl

@[simp] theorem Device.write_sent {d d' : Device} {data : Bytes} (h : d.write data = .ok d') :
    d'.sent = d.sent ++ data := by
  rw [Device.eq_of_write_ok h]

end TankDrive
