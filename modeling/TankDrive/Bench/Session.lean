import TankDrive.Watchdog
import TankDrive.CommandPlane
/-!
# 試験台の session

制御器、watchdog、指令の受け口を一つの線の上に組み、一歩ずつ操作して、各歩の後の
様子（`Snapshot`）を見る。線の向こうは記憶の装置か serial 端末で、端末では故障を
起こせない（その歩は `unsupported`）。

時計は一歩ごとに 1 ns 進む。古さを確かめる歩の時刻は、その歩の前の最後の指令の時刻に
指定の経過時間（負なら 0）を足したもの。

書き込みが遅いときの後始末（`cleanupWhileWriting`）：別の線で `setEsc` が線を押さえて
書き込みに `delay` ms かかる間に、20 ms 後に後始末が始まる。後始末は線を 500 ms まで待つ。

* 書き込みが 20 ms より前に終われば、`setEsc` の後に後始末が走る。
* 520 ms までに終われば、後始末の記録の後に書き込みが終わり、それから停止し、待って閉じる。
* それより遅ければ、後始末は停止を飛ばして待ち、書き込みが終わってから線を閉じる。

別の線の `setEsc` が書き込みの中断で止まると、その線を待つ側には中断の理由ではなく
`writer panicked` だけが届く。

session を終えるとき（`finish`）、制御器は後始末をする。書き込みの中断が切られていなければ、
その後始末の停止が中断し、session 全体がその中断で終わる。
-/

namespace TankDrive.Bench

open Controller Wire

/-- session の一歩。 -/
inductive Step where
  | setEsc (side : Track) (throttle : Float)
  | stop
  | stale (deadlineMs : Nat) (ageMs : Int)
  | tick (ageMs : Int)
  | refresh
  | voltage
  | receive (data : Bytes)
  | failWrites (on : Bool)
  | failReads (on : Bool)
  | abortWrites (on : Bool)
  | isStopped
  | cleanupWhileWriting (side : Track) (throttle : Float) (delayMs : Nat)
  | cleanup
  | command (c : DriveCommand)
  | planeStop
  | status (alarm : Option Alarm)

/-- 一歩の結果。 -/
inductive Reply where
  | none
  | failed (e : Error)
  | aborted (reason : String)
  | staleness (s : Staleness)
  | alarm (a : Alarm)
  | float (x : Float)
  | bool (b : Bool)
  | status (s : DriveStatus)
  /-- 後始末と並んで走った `setEsc` の結果。 -/
  | alongside (r : Reply)
  /-- 端末では起こせない故障。 -/
  | unsupported

/-- 一歩の後の様子。 -/
structure Snapshot where
  reply : Reply
  /-- この歩の間に書かれた byte。 -/
  written : Bytes
  stopped : Bool
  voltage : Float
  throttle : PerTrack Float
  linkOpen : Bool
  /-- 最後の指令の時刻が変わったか。 -/
  commandMoved : Bool
  alarm : Alarm
  /-- 受信の待ち行列に残る byte の数。 -/
  inboxLeft : Nat

/-- 線の向こう。 -/
inductive Medium where
  | memory
  | terminal
deriving DecidableEq

/-- session。 -/
structure Session where
  medium : Medium
  setup : Setup
  machine : Machine
  watchdog : Watchdog
  plane : CommandPlane

/-- 操作の結果を一歩の結果にする。 -/
def Reply.ofResult : Except Error Unit → Reply
  | .ok () => .none
  | .error e => .failed e

/-- 経過時間（ms、負なら 0）を足した時刻。 -/
def later (t : Nat) (ageMs : Int) : Nat := t + ageMs.toNat * 1000000

/-- 装置を書き換える。 -/
def updateDevice (f : Device → Device) : Act Unit :=
  modify fun m => { m with device := f m.device }

/-- 別の線の中断を、その線を待つ側から見た理由。 -/
def writerPanicked : String := "writer panicked"

/-- 書き込みが遅いときの後始末。 -/
def cleanupWhileWriting (setup : Setup) (side : Track) (throttle : Float) (delayMs : Nat) :
    Act Reply := do
  -- 並んで走る `setEsc` の中断は、その線だけを止める
  let alone (op : Op Unit) : Act Reply :=
    tryCatchThe Abort (do pure (Reply.ofResult (← op.attempt))) fun _ => pure (.aborted writerPanicked)
  if (← get).done then
    .alongside <$> alone (setEsc setup side throttle)
  else
    match ← (prepareSetEsc setup side throttle).attempt with
    | .error e =>
      cleanup setup
      pure (.alongside (.failed e))
    | .ok (t, p) =>
      if delayMs < 20 then
        let r ← alone (finishSetEsc side t p)
        cleanup setup
        pure (.alongside r)
      else
        discard beginCleanup
        if 520 < delayMs then
          skipFinalStop
          settle setup
          let r ← alone (finishSetEsc side t p)
          closeLink
          pure (.alongside r)
        else
          let r ← alone (finishSetEsc side t p)
          finalStop setup
          settle setup
          closeLink
          pure (.alongside r)

/-- 故障を切り替える。端末ではできない。 -/
def Session.fault (s : Session) (f : Device → Device) : Act (Reply × Watchdog × CommandPlane) :=
  if s.medium = .terminal then pure (.unsupported, s.watchdog, s.plane)
  else do
    updateDevice f
    pure (.none, s.watchdog, s.plane)

/-- 一歩を操作として。watchdog と受け口の新しい状態も返す。 -/
def Session.act (s : Session) : Step → Act (Reply × Watchdog × CommandPlane)
  | .setEsc side t => do
    let r ← (setEsc s.setup side t).attempt
    pure (.ofResult r, s.watchdog, s.plane)
  | .stop => do
    let r ← (stopAll s.setup).attempt
    pure (.ofResult r, s.watchdog, s.plane)
  | .stale d age => do
    let now := later (← get).motor.lastCommand age
    let r ← (stopIfStale s.setup (d * 1000000) now).attempt
    let reply := match r with
      | .ok st => Reply.staleness st
      | .error e => Reply.failed e
    pure (reply, s.watchdog, s.plane)
  | .tick age => do
    let now := later (← get).motor.lastCommand age
    let w ← s.watchdog.tick s.setup now
    pure (.alarm w.alarm, w, s.plane)
  | .refresh => do
    let v ← refreshTelemetry
    pure (.float v, s.watchdog, s.plane)
  | .voltage => do pure (.float (← get).motor.voltage, s.watchdog, s.plane)
  | .receive data => do
    updateDevice (·.receive data)
    pure (.none, s.watchdog, s.plane)
  | .failWrites on => s.fault fun d => { d with failWrites := on }
  | .failReads on => s.fault fun d => { d with failReads := on }
  | .abortWrites on => s.fault fun d => { d with abortWrites := on }
  | .isStopped => do pure (.bool (← get).motor.stopped, s.watchdog, s.plane)
  | .cleanupWhileWriting side t delay => do
    if s.medium = .terminal then pure (.unsupported, s.watchdog, s.plane)
    else
      let r ← cleanupWhileWriting s.setup side t delay
      pure (r, s.watchdog, s.plane)
  | .cleanup => do
    cleanup s.setup
    pure (.none, s.watchdog, s.plane)
  | .command c => do
    let p ← s.plane.onCommand s.setup c
    pure (.none, s.watchdog, p)
  | .planeStop => do
    let p ← s.plane.onStop s.setup
    pure (.none, s.watchdog, p)
  | .status a => do
    let st ← s.plane.status (a.getD s.watchdog.alarm)
    pure (.status st, s.watchdog, s.plane)

/-- 制御器の様子を写す。 -/
def Snapshot.of (reply : Reply) (before : Machine) (m : Machine) (alarm : Alarm) : Snapshot where
  reply := reply
  written := m.device.sent.drop before.device.sent.length
  stopped := m.motor.stopped
  voltage := m.motor.voltage
  throttle := m.motor.throttle
  linkOpen := m.isOpen
  commandMoved := m.motor.lastCommand != before.motor.lastCommand
  alarm := alarm
  inboxLeft := m.device.inbox.length

/-- 一歩進める。 -/
def Session.step (s : Session) (st : Step) : Session × Snapshot :=
  let m0 := { s.machine with clock := s.machine.clock + 1 }
  let (res, m1) := (s.act st).run.run m0
  let (reply, w, p) := match res with
    | .ok r => r
    | .error a => (Reply.aborted a.reason, s.watchdog, s.plane)
  ({ s with machine := m1, watchdog := w, plane := p }, Snapshot.of reply m0 m1 w.alarm)

/-- 歩を順に進め、各歩の様子を集める。 -/
def Session.run (s : Session) : List Step → Session × List Snapshot
  | [] => (s, [])
  | st :: rest =>
    let (s1, snap) := s.step st
    let (s2, snaps) := s1.run rest
    (s2, snap :: snaps)

/-- 線の向こうを開いた直後の制御器から session を組む。失敗なら誤りと、そこまでの状態。 -/
def Session.build (medium : Medium) (config : Config) (m : Machine) :
    Except Error (Session × Snapshot) :=
  let setup := Setup.ofConfig config
  let (res, m1) := (start setup).run.run m
  match res with
  | .ok (.ok ()) =>
    let s : Session := ⟨medium, setup, m1, Watchdog.ofConfig config, {}⟩
    .ok (s, Snapshot.of .none m m1 .armed)
  | .ok (.error e) => .error e
  | .error a => .error (.link (.io a.reason))

/-- 記憶の装置の上の session を始める。`inbox` は始める前に届いていた byte。 -/
def Session.openMemory (config : Config) (inbox : Bytes) (failWrites : Bool) :
    Except Error (Session × Snapshot) :=
  Session.build .memory config (Machine.fresh "mem" { inbox := inbox, failWrites := failWrites } 0)

/-- serial 端末の開き方。 -/
inductive Via where
  /-- 設定の baud rate で開き、制御器を作る。 -/
  | controller
  /-- 既定の baud rate で線を開く。 -/
  | link
  /-- 設定の baud rate で線を開く。 -/
  | linkBaud
deriving DecidableEq

/-- 開き方で決まる baud rate。 -/
def Via.baud (v : Via) (config : Config) : Nat :=
  if v = .link then 4800 else config.baud

/-- serial 端末の上の session を始める。開くときに受信の待ち行列は捨てられる。 -/
def Session.openTerminal (config : Config) (via : Via) (name : String) :
    Except Error (Session × Snapshot) :=
  let m := Machine.fresh name {} 0
  Session.build .terminal config { m with log := [openingLine name (via.baud config)] }

/-- 制御器を手放すときの後始末。後の状態か、後始末が中断すればその中断を返す。 -/
def release (setup : Setup) (m : Machine) : Except Abort Machine :=
  match (cleanup setup).run.run m with
  | (.ok (), m) => .ok m
  | (.error a, _) => .error a

/-- session を終える：制御器を手放す。 -/
def Session.finish (s : Session) : Except Abort Machine := release s.setup s.machine

end TankDrive.Bench
