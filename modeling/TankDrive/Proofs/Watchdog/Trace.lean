import TankDrive.Proofs.Controller.Packets
import TankDrive.Watchdog
/-!
# watchdog の見回りと走り

制御器の区間（`Section`）、外の出来事（`Outside`）、watchdog の見回り（`Watchdog.tick`）を
どの順にも重ねた走りを考える。見回りの時刻は任意で、最後の指令の時刻より前でもよい
（見回りは鍵を取る前に時計を読むので）。見回りの確かめ（`Watchdog.check`）は鍵の下の
`stopIfStale` で、見回り全体は、確かめの結果で watchdog を更新し（`Watchdog.after`）、
受信を読むだけである（`Watchdog.tick_spec`）。

次が成り立つ。

* 見回りが書くのは、期限を過ぎて動いているときだけで、書くのは中立の packet を左、右の順に
  （`tick_writes_neutral`）。
* 確かめが `tripped` か `idle` なら、見回りの後は止まっている（`tick_stops`）。
* 0 でないスロットルの指令が成功しない区間では、確かめが `tripped` になる見回りは高々一つ
  （`trips_le_one`）で、`tripped` の後の見回りは何も書かない（`quiet_after_trip`）。
  止める書き込みに失敗した見回りは止まりの印を立てず、次の見回りがまた止めにいく
  （`failed_stop_retries`）。
* 見回りは最後の指令の時刻を変えない。武装した watchdog から始めれば、watchdog が作動して
  いるのは、ちょうど、ある見回りの確かめが `tripped` で、それより後のどの見回りの確かめも
  `fresh` でないとき（`alarm_tripped_iff`）。

「止まっていれば指令が来るまで止まったまま」には、止まりの印が両側のスロットルの零と一致する
ことが要る。これは到達できる状態の性質で（`Consistent`）、見回りも保つ（`World.Reachable.consistent`）。
-/

namespace TankDrive

open Controller Throttle Wire

/-! ## 見回りの一回 -/

theorem Controller.Act.go_discard (x : Act α) (m : Machine) :
    (discard x).go m = match x.go m with
      | (.ok _, m') => (.ok (), m')
      | (.error a, m') => (.error a, m') :=
  Act.go_map (fun _ => ()) x m

@[simp] theorem Controller.refreshTelemetry_go_core (m : Machine) :
    (refreshTelemetry.go m).2.core = m.core := by
  obtain ⟨m', h, hc⟩ := refreshTelemetry_core m
  rw [h, hc]

theorem Controller.discard_refreshTelemetry_go (m : Machine) :
    (discard refreshTelemetry).go m = (.ok (), (refreshTelemetry.go m).2) := by
  obtain ⟨m', h, -⟩ := refreshTelemetry_core m
  rw [Act.go_discard, h]

/-- 見回りの確かめ：期限を ns にして、時刻 `now` で古さを確かめる。 -/
def Watchdog.check (w : Watchdog) (setup : Setup) (now : Nat) : Op Staleness :=
  stopIfStale setup (w.deadlineMs * 1000000) now

/-- 確かめの結果を受けた watchdog。`fresh` で武装に戻り、`tripped` で作動し、失敗では
作動の状態を変えずに失敗を覚える。 -/
def Watchdog.after (w : Watchdog) : Except Controller.Error Staleness → Watchdog
  | .ok .fresh => { w with alarm := .armed, failing := false }
  | .ok .idle => { w with failing := false }
  | .ok (.tripped _) => { w with alarm := .tripped, failing := false }
  | .error _ => { w with failing := true }

/-- 見回りは、確かめの結果で watchdog を更新し、`Core` には確かめと同じことを起こす。
確かめが中断すれば見回りも中断する。 -/
theorem Watchdog.tick_spec (w : Watchdog) (setup : Setup) (now : Nat) (m : Machine) :
    ((w.tick setup now).go m).1 = ((w.check setup now).go m).1.map w.after ∧
    ((w.tick setup now).go m).2.core = ((w.check setup now).go m).2.core := by
  unfold Watchdog.tick
  rw [Act.go_bind, Act.go_attempt]
  change _ = ((stopIfStale setup (w.deadlineMs * 1000000) now).go m).1.map w.after ∧
    _ = ((stopIfStale setup (w.deadlineMs * 1000000) now).go m).2.core
  rcases h : (stopIfStale setup (w.deadlineMs * 1000000) now).go m with ⟨_ | r, m₁⟩
  · exact ⟨rfl, rfl⟩
  · -- 記録を書いてから受信を読むだけで、`Core` は確かめの後のまま
    dsimp only
    rcases r with e | (_ | _ | _)
    all_goals dsimp only
    all_goals (try split) <;>
      simp [Act.go_bind, Act.go_map, discard_refreshTelemetry_go, Watchdog.after, Except.map]

/-- 確かめが期限を保つ：`after` は期限を変えない。 -/
@[simp] theorem Watchdog.after_deadlineMs (w : Watchdog) (r : Except Controller.Error Staleness) :
    (w.after r).deadlineMs = w.deadlineMs := by
  rcases r with _ | (_ | _ | _) <;> rfl

/-! ## 古さの確かめの帰結 -/

section Check

variable {setup : Setup} {deadline now : Nat} {m : Machine}

/-- 止まっていれば、確かめは何も変えず `fresh` か `idle`。 -/
theorem stopIfStale_of_stopped (setup : Setup) (deadline now : Nat) (hs : m.motor.stopped = true) :
    (stopIfStale setup deadline now).go m = (.ok (.ok .fresh), m) ∨
      (stopIfStale setup deadline now).go m = (.ok (.ok .idle), m) := by
  rcases stopIfStale_spec setup deadline now m with ⟨-, h⟩ | ⟨-, -, h⟩ | ⟨-, hs', -⟩
  · exact .inl h
  · exact .inr h
  · rw [hs] at hs'
    cases hs'

/-- 確かめは最後の指令の時刻を変えない。 -/
theorem stopIfStale_lastCommand :
    ((stopIfStale setup deadline now).go m).2.core.lastCommand = m.motor.lastCommand := by
  rcases stopIfStale_spec setup deadline now m with ⟨-, h⟩ | ⟨-, -, h⟩ | ⟨-, -, wl, wr, -, -, hc⟩
  · rw [h]; rfl
  · rw [h]; rfl
  · rw [hc]
    cases wl <;> cases wr <;> rfl

/-- `tripped` になるのは動いていたときで、その後は止まっている。 -/
theorem stopIfStale_tripped {elapsed : Nat}
    (h : ((stopIfStale setup deadline now).go m).1 = .ok (.ok (.tripped elapsed))) :
    m.motor.stopped = false ∧ ((stopIfStale setup deadline now).go m).2.core.stopped = true := by
  rcases stopIfStale_spec setup deadline now m with ⟨-, h'⟩ | ⟨-, -, h'⟩ | ⟨-, hs, wl, wr, hok, -, hc⟩
  · rw [h'] at h; cases h
  · rw [h'] at h; cases h
  · -- 成功したので両側とも書けて、止まったと記録している
    have hboth : (wl && wr) = true := by rw [← hok, h]; rfl
    rw [hc, if_pos hboth]
    exact ⟨hs, rfl⟩

/-- `fresh` は期限内のときで、何も変えない。 -/
theorem stopIfStale_fresh (h : ((stopIfStale setup deadline now).go m).1 = .ok (.ok .fresh)) :
    now - m.motor.lastCommand ≤ deadline ∧ ((stopIfStale setup deadline now).go m).2 = m := by
  rcases stopIfStale_spec setup deadline now m with ⟨hle, h'⟩ | ⟨-, -, h'⟩ | ⟨-, -, -, -, -, hr, -⟩
  · rw [h']; exact ⟨hle, rfl⟩
  · rw [h'] at h; cases h
  · cases hr _ h

/-- `idle` は止まっていたときで、何も変えない。 -/
theorem stopIfStale_idle (h : ((stopIfStale setup deadline now).go m).1 = .ok (.ok .idle)) :
    m.motor.stopped = true ∧ ((stopIfStale setup deadline now).go m).2 = m := by
  rcases stopIfStale_spec setup deadline now m with ⟨-, h'⟩ | ⟨-, hs, h'⟩ | ⟨-, -, -, -, -, hr, -⟩
  · rw [h'] at h; cases h
  · rw [h']; exact ⟨hs, rfl⟩
  · cases hr _ h

/-- 止める書き込みに失敗した確かめは、期限を過ぎて動いていたときで、止まりの印を立てない。 -/
theorem stopIfStale_failed {e : Controller.Error}
    (h : ((stopIfStale setup deadline now).go m).1 = .ok (.error e)) :
    deadline < now - m.motor.lastCommand ∧
      ((stopIfStale setup deadline now).go m).2.core.stopped = false := by
  rcases stopIfStale_spec setup deadline now m with ⟨-, h'⟩ | ⟨-, -, h'⟩ | ⟨hlt, hs, wl, wr, hok, -, hc⟩
  · rw [h'] at h; cases h
  · rw [h'] at h; cases h
  · have hnot : (wl && wr) = false := by rw [← hok, h]; rfl
    rw [hc, if_neg (by simp [hnot])]
    exact ⟨hlt, hs⟩

end Check

/-! ## 走り -/

/-- 制御器と watchdog。 -/
structure World where
  machine : Machine
  watchdog : Watchdog

/-- 走りの一歩：制御器の鍵の下の区間、watchdog の見回り、制御器の外の出来事。 -/
inductive Event where
  | locked (s : Section)
  | tick (now : Nat)
  | outside (e : Outside)

namespace World

variable (setup : Setup)

/-- 一歩の後。見回りが中断すれば、watchdog は前のまま。 -/
def step (x : World) : Event → World
  | .locked s => { x with machine := s.run setup x.machine }
  | .tick now =>
    match (x.watchdog.tick setup now).go x.machine with
    | (.ok w, m) => ⟨m, w⟩
    | (.error _, m) => ⟨m, x.watchdog⟩
  | .outside e => { x with machine := e.run x.machine }

/-- 歩を順に重ねた後。 -/
def run (x : World) (es : List Event) : World := es.foldl (step setup) x

/-- 走りの各歩と、その直前の状態。 -/
def trace : World → List Event → List (World × Event)
  | _, [] => []
  | x, e :: es => (x, e) :: trace (x.step setup e) es

/-- 見回りの確かめの結果。見回りでない歩では `none`。 -/
def check (x : World) : Event → Option (Except Abort (Except Controller.Error Staleness))
  | .tick now => some ((x.watchdog.check setup now).go x.machine).1
  | _ => none

/-- 見回りの確かめが、動いていた両側を止めた（`tripped`）か。 -/
def trips (x : World) (e : Event) : Bool :=
  match x.check setup e with
  | some (.ok (.ok (.tripped _))) => true
  | _ => false

/-- 見回りの確かめが、最後の指令を新しいと見た（`fresh`）か。 -/
def findsFresh (x : World) (e : Event) : Bool :=
  match x.check setup e with
  | some (.ok (.ok .fresh)) => true
  | _ => false

/-- 0 でないスロットルの指令が成功する歩か。 -/
def resumes (x : World) : Event → Bool
  | .locked (.setEsc side t) =>
    succeeded ((Controller.setEsc setup side t).go x.machine).1 && !(t == 0.0)
  | _ => false

/-- 何も書かれていない線を開いた直後の制御器が始動に成功し、武装した watchdog と並んで、
そこから歩をどう重ねても至る状態。 -/
inductive Reachable : World → Prop
  | start {name : String} {device : Device} {clock : Nat} (fresh : device.sent = [])
      (ok : succeeded ((Controller.start setup).go (Machine.fresh name device clock)).1 = true)
      (w : Watchdog) (armed : w.alarm = .armed) :
      Reachable ⟨((Controller.start setup).go (Machine.fresh name device clock)).2, w⟩
  | step {x : World} (e : Event) : Reachable x → Reachable (x.step setup e)

variable {setup}

@[simp] theorem run_nil (x : World) : x.run setup [] = x := rfl

@[simp] theorem run_cons (x : World) (e : Event) (es : List Event) :
    x.run setup (e :: es) = (x.step setup e).run setup es := rfl

@[simp] theorem trace_nil (x : World) : x.trace setup [] = [] := rfl

@[simp] theorem trace_cons (x : World) (e : Event) (es : List Event) :
    x.trace setup (e :: es) = (x, e) :: (x.step setup e).trace setup es := rfl

/-! ### 見回りの一歩 -/

/-- 見回りの後の `Core` は、確かめの後の `Core`。 -/
theorem step_tick_core (x : World) (now : Nat) :
    (x.step setup (.tick now)).machine.core = ((x.watchdog.check setup now).go x.machine).2.core := by
  have h := (x.watchdog.tick_spec setup now x.machine).2
  simp only [step]
  split <;> simp_all

/-- 見回りの後の watchdog は、確かめの結果で更新したもの。中断なら前のまま。 -/
theorem step_tick_watchdog (x : World) (now : Nat) :
    (x.step setup (.tick now)).watchdog =
      match ((x.watchdog.check setup now).go x.machine).1 with
      | .ok r => x.watchdog.after r
      | .error _ => x.watchdog := by
  have h := (x.watchdog.tick_spec setup now x.machine).1
  simp only [step]
  split <;> rename_i heq <;> rw [heq] at h <;>
    rcases hc : ((x.watchdog.check setup now).go x.machine).1 with _ | r <;>
      simp_all [Except.map]

/-- 見回りが作動させるのは確かめが `tripped` のときで、作動したままなのは、確かめが
`fresh` でないとき。見回りでない歩は作動の状態を変えない。 -/
theorem step_alarm (x : World) (e : Event) :
    (x.step setup e).watchdog.alarm = .tripped ↔
      x.trips setup e = true ∨ (x.watchdog.alarm = .tripped ∧ x.findsFresh setup e = false) := by
  cases e with
  | locked s => simp [step, trips, findsFresh, check]
  | outside e => simp [step, trips, findsFresh, check]
  | tick now =>
    rw [step_tick_watchdog]
    rcases hc : ((x.watchdog.check setup now).go x.machine).1 with _ | (_ | (_ | _ | _)) <;>
      simp [trips, findsFresh, check, hc, Watchdog.after]

/-! ### 到達できる状態 -/

/-- 到達できる状態には、送った byte を並べた packet の列で `Consistent` なものがある。
見回りの `Core` は鍵の下の確かめの区間のものなので、区間の場合に帰着する。 -/
theorem Reachable.consistent {x : World} (h : Reachable setup x) :
    ∃ ps, Consistent setup ps x.machine.core := by
  induction h with
  | start fresh ok => exact ⟨_, Consistent.start fresh ok⟩
  | step e _ ih =>
    obtain ⟨ps, hps⟩ := ih
    cases e with
    | locked s =>
      obtain ⟨qs, h⟩ := hps.step s
      exact ⟨_, h⟩
    | tick now =>
      obtain ⟨qs, h⟩ := hps.step (.stopIfStale (_ * 1000000) now)
      exact ⟨_, by rw [step_tick_core]; exact h⟩
    | outside e => exact ⟨ps, hps.outside e⟩

/-- 到達できる状態では、止まりの印は両側のスロットルが `== 0.0` であることに等しい。 -/
theorem Reachable.stopped_eq {x : World} (h : Reachable setup x) :
    x.machine.motor.stopped =
      (x.machine.motor.throttle.left == 0.0 && x.machine.motor.throttle.right == 0.0) := by
  obtain ⟨ps, hps⟩ := h.consistent
  exact hps.stopped_eq

end World

/-! ## 止まったままでいること -/

section Stopped

variable {setup : Setup} {m : Machine}

/-- 止まっていれば、両側を止める操作の後も止まっている。 -/
theorem stopAll_stopped (hs : m.motor.stopped = true) :
    ((stopAll setup).go m).2.motor.stopped = true := by
  obtain ⟨wl, wr, -, hc⟩ := stopAll_core setup m
  show ((stopAll setup).go m).2.core.stopped = true
  rw [hc]
  cases wl <;> cases wr <;> first | rfl | exact hs

/-- 両側のスロットルが `== 0.0` で止まっていれば、`== 0.0` のスロットルの指令の後も止まっている。
指令が失敗しても止まったまま。 -/
theorem setEsc_stopped {side : Track} {t : Float}
    (hflag : m.motor.stopped = (m.motor.throttle.left == 0.0 && m.motor.throttle.right == 0.0))
    (hs : m.motor.stopped = true)
    (hr : (succeeded ((Controller.setEsc setup side t).go m).1 && !(t == 0.0)) = false) :
    ((Controller.setEsc setup side t).go m).2.motor.stopped = true := by
  show ((Controller.setEsc setup side t).go m).2.core.stopped = true
  rcases setEsc_core setup side t m with ⟨hok, -, speed, -, hc⟩ | ⟨-, hc⟩
  · have ht : (t == 0.0) = true := by simpa [hok] using hr
    have hz := clampUnit_beq_zero ht
    have hboth : (m.motor.throttle.left == 0.0) = true ∧ (m.motor.throttle.right == 0.0) = true := by
      simpa [hs] using hflag.symm
    rw [hc]
    cases side <;> simp [Core.command, Core.append, Machine.core, PerTrack.set, hz, hboth]
  · rw [hc]
    exact hs

end Stopped

namespace World

variable {setup : Setup}

/-! ### 一歩ごと -/

/-- 見回りが書くのは、期限を過ぎて動いているときだけで、書けた中立の packet を左、右の順に。 -/
theorem tick_writes_neutral (x : World) (now : Nat) : ∃ wl wr : Bool,
    (x.step setup (.tick now)).machine.device.sent = x.machine.device.sent ++
      ((if wl then (neutralPacket setup .left).bytes else []) ++
        (if wr then (neutralPacket setup .right).bytes else [])) ∧
    ((wl || wr) = true → x.watchdog.deadlineMs * 1000000 < now - x.machine.motor.lastCommand ∧
      x.machine.motor.stopped = false) := by
  show ∃ wl wr : Bool, (x.step setup (.tick now)).machine.core.sent = _ ∧ _
  rw [step_tick_core]
  rcases stopIfStale_spec setup (x.watchdog.deadlineMs * 1000000) now x.machine with
    ⟨-, h⟩ | ⟨-, -, h⟩ | ⟨hlt, hs, wl, wr, -, -, hc⟩
  · exact ⟨false, false, by simp [Watchdog.check, h, Machine.core], by simp⟩
  · exact ⟨false, false, by simp [Watchdog.check, h, Machine.core], by simp⟩
  · refine ⟨wl, wr, ?_, fun _ => ⟨hlt, hs⟩⟩
    simp only [Watchdog.check, hc]
    cases wl <;> cases wr <;> simp [Machine.core]

/-- 確かめが `tripped` か `idle` なら、見回りの後は止まっている。 -/
theorem tick_stops (x : World) (now : Nat)
    (h : x.trips setup (.tick now) = true ∨ x.check setup (.tick now) = some (.ok (.ok .idle))) :
    (x.step setup (.tick now)).machine.motor.stopped = true := by
  show (x.step setup (.tick now)).machine.core.stopped = true
  rw [step_tick_core]
  rcases h with h | h
  · simp only [trips, check] at h
    split at h
    · rename_i elapsed heq
      exact (stopIfStale_tripped (Option.some.inj heq)).2
    · cases h
  · obtain ⟨hs, heq⟩ := stopIfStale_idle (Option.some.inj h)
    change ((stopIfStale setup _ now).go x.machine).2.core.stopped = true
    rw [heq]
    exact hs

/-- 見回りの確かめが `tripped` なら、その前は動いていて、後は止まっている。 -/
theorem trips_stopped {x : World} {e : Event} (h : x.trips setup e = true) :
    x.machine.motor.stopped = false ∧ (x.step setup e).machine.motor.stopped = true := by
  cases e with
  | locked s => cases h
  | outside e => cases h
  | tick now =>
    refine ⟨?_, tick_stops x now (.inl h)⟩
    simp only [trips, check] at h
    split at h
    · rename_i elapsed heq
      exact (stopIfStale_tripped (Option.some.inj heq)).1
    · cases h

/-- 止まっていれば、見回りは何も書かない。 -/
theorem tick_quiet {x : World} (hs : x.machine.motor.stopped = true) (now : Nat) :
    (x.step setup (.tick now)).machine.device.sent = x.machine.device.sent := by
  show (x.step setup (.tick now)).machine.core.sent = _
  rw [step_tick_core]
  rcases stopIfStale_of_stopped setup (x.watchdog.deadlineMs * 1000000) now hs with h | h <;>
    simp [Watchdog.check, h, Machine.core]

/-- 到達できる止まった状態は、0 でないスロットルの指令が成功しない限り、一歩の後も止まっている。 -/
theorem stays_stopped {x : World} (hx : Reachable setup x) (hs : x.machine.motor.stopped = true)
    {e : Event} (hr : x.resumes setup e = false) : (x.step setup e).machine.motor.stopped = true := by
  cases e with
  | locked s =>
    cases s with
    | setEsc side t => exact setEsc_stopped hx.stopped_eq hs hr
    | stop => exact stopAll_stopped hs
    | stopIfStale deadline now =>
      rcases stopIfStale_of_stopped setup deadline now hs
        with h | h <;> simp [step, Section.run, h, hs]
    | refresh =>
      obtain ⟨m', hgo, hc⟩ := refreshTelemetry_core x.machine
      show (refreshTelemetry.go x.machine).2.core.stopped = true
      rw [hgo, hc]
      exact hs
    | beginCleanup =>
      simp only [step, Section.run, beginCleanup_go]
      split <;> exact hs
    | finalStop =>
      show ((Controller.finalStop setup).go x.machine).2.core.stopped = true
      rw [finalStop_core]
      exact stopAll_stopped hs
    | skipFinalStop => exact hs
    | closeLink =>
      simp only [step, Section.run, closeLink_go]
      split <;> exact hs
  | tick now =>
    show (x.step setup (.tick now)).machine.core.stopped = true
    rw [step_tick_core]
    rcases stopIfStale_of_stopped setup (x.watchdog.deadlineMs * 1000000) now hs with h | h <;>
      simp [Watchdog.check, h, hs, Machine.core]
  | outside e => cases e <;> exact hs

/-- 止める書き込みに失敗した見回りの後は、止まりの印が立たず、失敗を覚えている。後の時刻の
見回りは、確かめが `fresh` にも `idle` にもならず、また止めにいく。 -/
theorem failed_stop_retries (x : World) (now : Nat) {e : Controller.Error}
    (h : x.check setup (.tick now) = some (.ok (.error e))) :
    (x.step setup (.tick now)).machine.motor.stopped = false ∧
    (x.step setup (.tick now)).watchdog.failing = true ∧
    ∀ now', now ≤ now' → ∀ r, (x.step setup (.tick now)).check setup (.tick now') = some (.ok (.ok r)) →
      ∃ elapsed, r = .tripped elapsed := by
  have hr : ((x.watchdog.check setup now).go x.machine).1 = .ok (.error e) := Option.some.inj h
  obtain ⟨hlt, hstop⟩ := stopIfStale_failed hr
  have hcore : (x.step setup (.tick now)).machine.core = _ := step_tick_core x now
  have hw : (x.step setup (.tick now)).watchdog = x.watchdog.after (.error e) := by
    rw [step_tick_watchdog, hr]
  have hstop' : (x.step setup (.tick now)).machine.motor.stopped = false := by
    show (x.step setup (.tick now)).machine.core.stopped = false
    rw [hcore]
    exact hstop
  refine ⟨hstop', by rw [hw]; rfl, fun now' hle r hr' => ?_⟩
  -- 最後の指令の時刻も期限も変わらないので、後の時刻でも期限を過ぎていて、動いている
  have hlast : (x.step setup (.tick now)).machine.motor.lastCommand = x.machine.motor.lastCommand := by
    show (x.step setup (.tick now)).machine.core.lastCommand = _
    rw [hcore]
    exact stopIfStale_lastCommand
  have hdl : (x.step setup (.tick now)).watchdog.deadlineMs = x.watchdog.deadlineMs := by
    rw [hw, Watchdog.after_deadlineMs]
  simp only [check, Watchdog.check, hdl] at hr'
  rcases stopIfStale_spec setup (x.watchdog.deadlineMs * 1000000) now'
    (x.step setup (.tick now)).machine with ⟨hle', -⟩ | ⟨-, hs, -⟩ | ⟨-, -, -, -, -, htr, -⟩
  · rw [hlast] at hle'
    omega
  · rw [hstop'] at hs
    cases hs
  · exact ⟨_, htr r (Option.some.inj hr')⟩

/-- 見回りは最後の指令の時刻を変えない。 -/
theorem tick_keeps_lastCommand (x : World) (now : Nat) :
    (x.step setup (.tick now)).machine.motor.lastCommand = x.machine.motor.lastCommand := by
  show (x.step setup (.tick now)).machine.core.lastCommand = _
  rw [step_tick_core]
  exact stopIfStale_lastCommand

/-! ### 走り -/

/-- 到達できる止まった状態からは、0 でないスロットルの指令が成功しない限り、どの歩の前も
到達できて止まっている。 -/
theorem stays_stopped_along {x : World} (hx : Reachable setup x)
    (hs : x.machine.motor.stopped = true) (es : List Event)
    (hno : ∀ q ∈ x.trace setup es, q.1.resumes setup q.2 = false) :
    ∀ q ∈ x.trace setup es, Reachable setup q.1 ∧ q.1.machine.motor.stopped = true := by
  induction es generalizing x with
  | nil => simp
  | cons e es ih =>
    have hr : x.resumes setup e = false := hno (x, e) (by simp)
    have hrest := ih (hx.step e) (stays_stopped hx hs hr) (fun q hq => hno q (by simp [hq]))
    intro q hq
    rcases List.mem_cons.1 hq with rfl | hq
    · exact ⟨hx, hs⟩
    · exact hrest q hq

/-- 0 でないスロットルの指令が成功しない区間では、確かめが `tripped` になる見回りは高々一つ。
`tripped` の後は止まっていて、止まっている間の確かめは `tripped` にならないからである。 -/
theorem trips_le_one {x : World} (hx : Reachable setup x) (es : List Event)
    (hno : ∀ q ∈ x.trace setup es, q.1.resumes setup q.2 = false) :
    (x.trace setup es).countP (fun q => q.1.trips setup q.2) ≤ 1 := by
  induction es generalizing x with
  | nil => simp
  | cons e es ih =>
    have hno' : ∀ q ∈ (x.step setup e).trace setup es, q.1.resumes setup q.2 = false :=
      fun q hq => hno q (by simp [hq])
    rw [trace_cons, List.countP_cons]
    cases ht : x.trips setup e
    · simpa using ih (hx.step e) hno'
    · -- この見回りの後は止まったままで、残りの見回りは `tripped` にならない
      have hall := stays_stopped_along (hx.step e) (trips_stopped ht).2 es hno'
      have hzero : ((x.step setup e).trace setup es).countP (fun q => q.1.trips setup q.2) = 0 := by
        rw [List.countP_eq_zero]
        intro q hq hq'
        have := (trips_stopped hq').1
        rw [(hall q hq).2] at this
        cases this
      simp [hzero]

/-- `tripped` の後は、0 でないスロットルの指令が成功するまで、どの見回りも何も書かない。 -/
theorem quiet_after_trip {x : World} (hx : Reachable setup x) {e : Event}
    (ht : x.trips setup e = true) (es : List Event)
    (hno : ∀ q ∈ (x.step setup e).trace setup es, q.1.resumes setup q.2 = false) :
    ∀ q ∈ (x.step setup e).trace setup es, ∀ now, q.2 = .tick now →
      (q.1.step setup q.2).machine.device.sent = q.1.machine.device.sent := by
  intro q hq now hnow
  have hall := stays_stopped_along (hx.step e) (trips_stopped ht).2 es hno
  rw [hnow]
  exact tick_quiet (hall q hq).2 now

end World

/-! ## 作動の状態 -/

/-- 列のある要素で `p` が成り立ち、それより後のどの要素でも `q` が成り立たない。 -/
def Since (p q : α → Bool) (l : List α) : Prop :=
  ∃ l₁ a l₂, l = l₁ ++ a :: l₂ ∧ p a = true ∧ ∀ b ∈ l₂, q b = false

theorem not_since_nil (p q : α → Bool) : ¬Since p q [] := by
  rintro ⟨l₁, a, l₂, h, -⟩
  simp at h

theorem since_cons (p q : α → Bool) (a : α) (l : List α) :
    Since p q (a :: l) ↔ Since p q l ∨ (p a = true ∧ ∀ b ∈ l, q b = false) := by
  constructor
  · rintro ⟨l₁, b, l₂, hl, hp, hq⟩
    cases l₁ with
    | nil =>
      obtain ⟨rfl, rfl⟩ := List.cons.inj hl
      exact .inr ⟨hp, hq⟩
    | cons c l₁ =>
      obtain ⟨-, rfl⟩ := List.cons.inj hl
      exact .inl ⟨l₁, b, l₂, rfl, hp, hq⟩
  · rintro (⟨l₁, b, l₂, rfl, hp, hq⟩ | ⟨hp, hq⟩)
    · exact ⟨a :: l₁, b, l₂, rfl, hp, hq⟩
    · exact ⟨[], a, l, rfl, hp, hq⟩

namespace World

variable {setup : Setup}

/-- 走りの後に watchdog が作動しているのは、ある見回りの確かめが `tripped` でそれより後の
確かめがどれも `fresh` でないときか、初めから作動していてどの確かめも `fresh` でないとき。 -/
theorem run_alarm_tripped (x : World) (es : List Event) :
    (x.run setup es).watchdog.alarm = .tripped ↔
      Since (fun q => q.1.trips setup q.2) (fun q => q.1.findsFresh setup q.2) (x.trace setup es) ∨
      (x.watchdog.alarm = .tripped ∧ ∀ q ∈ x.trace setup es, q.1.findsFresh setup q.2 = false) := by
  induction es generalizing x with
  | nil => simp [not_since_nil]
  | cons e es ih =>
    rw [run_cons, ih, trace_cons, since_cons, step_alarm, List.forall_mem_cons]
    simp only [or_and_right, or_assoc, and_assoc]

/-- 武装した watchdog から始めれば、走りの後に作動しているのは、ちょうど、ある見回りの
確かめが `tripped` で、それより後のどの確かめも `fresh` でないとき。 -/
theorem alarm_tripped_iff (x : World) (es : List Event) (harmed : x.watchdog.alarm = .armed) :
    (x.run setup es).watchdog.alarm = .tripped ↔
      Since (fun q => q.1.trips setup q.2) (fun q => q.1.findsFresh setup q.2) (x.trace setup es) := by
  rw [run_alarm_tripped, harmed]
  simp

/-- 制御器と watchdog のどの走りでも、次が成り立つ。
* 見回りが書くのは、期限を過ぎて動いているときの、左、右の順の中立の packet だけ。
* 確かめが `tripped` か `idle` の見回りの後は止まっている。
* 0 でないスロットルの指令が成功しない区間では、確かめが `tripped` になる見回りは高々一つで、
  `tripped` の後の見回りは何も書かない。止める書き込みに失敗した見回りの後は止まりの印が
  立たず、後の時刻の見回りはまた止めにいく。
* 見回りは最後の指令の時刻を変えない。武装から始めた watchdog が作動しているのは、ちょうど、
  ある見回りの確かめが `tripped` で、それより後のどの確かめも `fresh` でないとき。 -/
theorem watchdog_run_contract (setup : Setup) :
    (∀ (x : World) (now : Nat), ∃ wl wr : Bool,
      (x.step setup (.tick now)).machine.device.sent = x.machine.device.sent ++
        ((if wl then (neutralPacket setup .left).bytes else []) ++
          (if wr then (neutralPacket setup .right).bytes else [])) ∧
      ((wl || wr) = true → x.watchdog.deadlineMs * 1000000 < now - x.machine.motor.lastCommand ∧
        x.machine.motor.stopped = false)) ∧
    (∀ (x : World) (now : Nat),
      x.trips setup (.tick now) = true ∨ x.check setup (.tick now) = some (.ok (.ok .idle)) →
        (x.step setup (.tick now)).machine.motor.stopped = true) ∧
    (∀ x, Reachable setup x → ∀ es, (∀ q ∈ x.trace setup es, q.1.resumes setup q.2 = false) →
      (x.trace setup es).countP (fun q => q.1.trips setup q.2) ≤ 1) ∧
    (∀ x e, Reachable setup x → x.trips setup e = true → ∀ es,
      (∀ q ∈ (x.step setup e).trace setup es, q.1.resumes setup q.2 = false) →
      ∀ q ∈ (x.step setup e).trace setup es, ∀ now, q.2 = .tick now →
        (q.1.step setup q.2).machine.device.sent = q.1.machine.device.sent) ∧
    (∀ (x : World) (now : Nat) (err : Controller.Error),
      x.check setup (.tick now) = some (.ok (.error err)) →
        (x.step setup (.tick now)).machine.motor.stopped = false ∧
        (x.step setup (.tick now)).watchdog.failing = true ∧
        ∀ now', now ≤ now' → ∀ r,
          (x.step setup (.tick now)).check setup (.tick now') = some (.ok (.ok r)) →
            ∃ elapsed, r = .tripped elapsed) ∧
    (∀ (x : World) (now : Nat),
      (x.step setup (.tick now)).machine.motor.lastCommand = x.machine.motor.lastCommand) ∧
    (∀ (x : World) es, x.watchdog.alarm = .armed →
      ((x.run setup es).watchdog.alarm = .tripped ↔
        Since (fun q => q.1.trips setup q.2) (fun q => q.1.findsFresh setup q.2) (x.trace setup es))) :=
  ⟨tick_writes_neutral, tick_stops, fun _ hx => trips_le_one hx,
    fun _ _ hx ht => quiet_after_trip hx ht, fun x now _ h => failed_stop_retries x now h,
    tick_keeps_lastCommand, alarm_tripped_iff⟩

/-- 既定の設定で始動し、左に `0.5` を指令してから期限を過ぎて見回ると `tripped` になり、
その後の見回りは何も書かない。 -/
theorem stale_command_trips_then_quiet :
    let setup := Setup.ofConfig {}
    let x : World := ⟨((Controller.start setup).go (Machine.fresh "mem" {} 0)).2,
      { deadlineMs := 1000, pollMs := 100 }⟩
    let y := x.step setup (.locked (.setEsc .left 0.5))
    Reachable setup y ∧ y.trips setup (.tick 2000000000) = true ∧
    ∀ q ∈ (y.step setup (.tick 2000000000)).trace setup [.tick 3000000000], ∀ now,
      q.2 = .tick now → (q.1.step setup q.2).machine.device.sent = q.1.machine.device.sent := by
  intro setup x y
  have hx : Reachable setup x := .start rfl (by decide) _ rfl
  have hy : Reachable setup y := hx.step _
  have ht : y.trips setup (.tick 2000000000) = true := by decide
  exact ⟨hy, ht, (watchdog_run_contract setup).2.2.2.1 y _ hy ht [.tick 3000000000]
    (by simp [resumes])⟩

end World

end TankDrive
