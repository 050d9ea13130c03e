import TankDrive.Track
import TankDrive.Throttle
import TankDrive.Json.Error
/-!
# 走行の設定

制御基板への線（device の path と baud rate）、watchdog の期限と見回りの間隔、停止の後に
線を閉じるまでの待ち時間、左右の出力の範囲と向き。どの項目にも既定値がある。

`Config.check` は次の順に確かめ、最初に見つかった問題を返す：

1. device の path が空
2. baud rate が 0
3. 見回りの間隔が 0
4. 期限が間隔より短い
5. 左の範囲
6. 右の範囲
-/

namespace TankDrive

/-- 片側の設定：出力の範囲と、逆向きに取り付けたか。 -/
structure TrackConfig where
  range : Throttle.Range := Throttle.Range.default
  inverted : Bool := false

instance : Inhabited TrackConfig := ⟨{}⟩

/-- 走行の設定。時間はすべて ms。 -/
structure Config where
  device : String := "/dev/serial0"
  baud : Nat := 4800
  deadlineMs : Nat := 2000
  pollMs : Nat := 100
  settleMs : Nat := 300
  left : TrackConfig := {}
  right : TrackConfig := {}

instance : Inhabited Config := ⟨{}⟩

namespace Config

/-- 片側の設定。 -/
def track (c : Config) : Track → TrackConfig
  | .left => c.left
  | .right => c.right

/-- 設定の値が受け入れられない理由。 -/
inductive Invalid where
  | emptyDevice
  | zeroBaud
  | zeroPoll
  | deadlineBelowPoll (deadline poll : Nat)

/-- 理由の文。 -/
def Invalid.message : Invalid → String
  | .emptyDevice => "empty port path"
  | .zeroBaud => "baudrate must be non-zero"
  | .zeroPoll => "poll interval must be non-zero"
  | .deadlineBelowPoll d p =>
    "deadline (" ++ toString d ++ " ms) shorter than poll interval (" ++ toString p ++ " ms)"

/-- 設定の誤り。 -/
inductive Error where
  /-- 設定の file が読めない。 -/
  | unreadable (reason : String)
  /-- 設定の file が JSON として読めない。 -/
  | parse (e : Json.Error)
  /-- 片側の範囲が正しくない。 -/
  | range (t : Track) (e : Throttle.Error)
  | invalid (why : Invalid)

/-- 誤りの文。 -/
def Error.message : Error → String
  | .unreadable r => "Cannot read config file: " ++ r
  | .parse e => "Cannot parse config file: " ++ e.message
  | .range t e => "Invalid " ++ t.label ++ " range: " ++ e.message
  | .invalid why => "Invalid config: " ++ why.message

/-- 片側の範囲を確かめる。 -/
def checkTrack (c : Config) (t : Track) : Except Error Unit :=
  ((c.track t).range.check).mapError (.range t)

/-- 設定を決まった順に確かめる。 -/
def check (c : Config) : Except Error Unit :=
  if c.device.isEmpty then .error (.invalid .emptyDevice)
  else if c.baud = 0 then .error (.invalid .zeroBaud)
  else if c.pollMs = 0 then .error (.invalid .zeroPoll)
  else if c.deadlineMs < c.pollMs then .error (.invalid (.deadlineBelowPoll c.deadlineMs c.pollMs))
  else do
    checkTrack c .left
    checkTrack c .right

/-- 両側の範囲を、速度 `±s` の対称な範囲にする。 -/
def withMaxSpeed (c : Config) (s : Int) : Config :=
  let r := Throttle.Range.symmetric (Binary64.ofInt s)
  { c with left := { c.left with range := r }, right := { c.right with range := r } }

end Config

end TankDrive
