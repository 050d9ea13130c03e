import TankDrive.Bench.Session
/-!
# 背景で走る watchdog

watchdog を見回りの間隔ごとに走らせながら、試験台が操作し、時間を待ち、止める。
見回りは走り始めた時刻 0 から `poll` ms ごとで、最初の見回りはすぐ。待つ `ms` の間には、
その区間 `[T, T + ms)` に入る見回りが、その前の操作の後に順に走る。

* 間隔が 0 なら見回りは一度も走らない（走り始めで止まる）。
* 見回りが中断すると、見回りはそこで止まり、状態はそのまま残る。
* 止めた後は見回らず、状態は `none` になる。知らせを受ける側には最後の値が残る。
* 終わりに制御器は後始末をする（`finish`）。書き込みの中断が切られていなければ、全体が
  その中断で終わる。

同じ ms の中の出来事は、起きた順に 1 ns ずつ後の時刻を持つ。
-/

namespace TankDrive.Bench

open Controller Wire

/-- 背景の watchdog と試験台。 -/
structure Task where
  setup : Setup
  machine : Machine
  watchdog : Watchdog
  /-- 見回りがまだ走るか。 -/
  alive : Bool
  /-- 止める操作をしたか。 -/
  shut : Bool
  /-- 最後に知らせた状態。 -/
  published : Alarm
  /-- 次の見回りの予定時刻（ms）。 -/
  nextTick : Nat
  /-- 今の時刻（ms）。 -/
  now : Nat
  /-- 出来事の通し番号。 -/
  seq : Nat
  /-- 前の報告までに書かれた byte の数。 -/
  reported : Nat

/-- 背景の試験台の一歩。 -/
inductive TaskStep where
  | act (s : Step)
  | wait (ms : Nat)
  | shutdown

/-- 待った後と止めた後の報告。 -/
structure Report where
  written : Bytes
  stopped : Bool
  voltage : Float
  throttle : PerTrack Float
  state : Option Alarm
  subscribed : Alarm

/-- 背景の試験台の一歩の結果。 -/
inductive TaskReply where
  | reply (r : Reply)
  | report (r : Report)

/-- 次の出来事の時刻（ns）に時計を進める。 -/
def Task.advance (t : Task) (atMs : Nat) : Task :=
  let m := { t.machine with clock := atMs * 1000000 + t.seq + 1 }
  { t with seq := t.seq + 1, machine := m }

/-- 見回りを一回。 -/
def Task.tickOnce (t : Task) (atMs : Nat) : Task :=
  let t := t.advance atMs
  let (res, m) := (t.watchdog.tick t.setup t.machine.clock).run.run t.machine
  match res with
  | .ok w =>
    let next := t.nextTick + t.watchdog.pollMs
    { t with machine := m, watchdog := w, published := w.alarm, nextTick := next }
  | .error _ => { t with machine := m, alive := false }

/-- 予定の見回りのうち `limit` ms より前のものを走らせる。 -/
def Task.ticksBefore (t : Task) (limit : Nat) : Nat → Task
  | 0 => t
  | fuel + 1 =>
    if t.alive && !t.shut && t.nextTick < limit then
      (t.tickOnce t.nextTick).ticksBefore limit fuel
    else t

/-- 報告を作る。 -/
def Task.report (t : Task) : Task × Report :=
  let m := t.machine
  ({ t with reported := m.device.sent.length },
    ⟨m.device.sent.drop t.reported, m.motor.stopped, m.motor.voltage, m.motor.throttle,
      if t.shut then none else some t.published, t.published⟩)

/-- 一歩進める。 -/
def Task.step (t : Task) : TaskStep → Task × TaskReply
  | .act s =>
    let t := t.advance t.now
    let sess : Session := ⟨.memory, t.setup, t.machine, t.watchdog, {}⟩
    let (res, m) := (sess.act s).run.run t.machine
    let reply := match res with
      | .ok (r, _, _) => r
      | .error a => Reply.aborted a.reason
    ({ t with machine := m }, .reply reply)
  | .wait ms =>
    let limit := t.now + ms
    let fuel := if t.watchdog.pollMs = 0 then 0 else ms / t.watchdog.pollMs + 2
    let t := { t.ticksBefore limit fuel with now := limit }
    let (t, r) := t.report
    (t, .report r)
  | .shutdown =>
    let (t, r) := { t with shut := true }.report
    (t, .report r)

/-- 歩を順に進める。 -/
def Task.run (t : Task) : List TaskStep → Task × List TaskReply
  | [] => (t, [])
  | s :: rest =>
    let (t1, r) := t.step s
    let (t2, rs) := t1.run rest
    (t2, r :: rs)

/-- 終える：見回りを止めた後、制御器が後始末をする。後始末が中断すればその中断。 -/
def Task.finish (t : Task) : Except Abort Machine := release t.setup t.machine

/-- 記憶の装置の上に制御器を作り、watchdog を走らせ始める。 -/
def Task.start (config : Config) (deadlineMs pollMs : Nat) : Except Error (Task × Bytes) :=
  match Session.openMemory config [] false with
  | .error e => .error e
  | .ok (s, snap) =>
    let w : Watchdog := { deadlineMs := deadlineMs, pollMs := pollMs }
    .ok (⟨s.setup, s.machine, w, pollMs ≠ 0, false, .armed, 0, 0, 0, s.machine.device.sent.length⟩,
      snap.written)

end TankDrive.Bench
