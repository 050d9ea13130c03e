import TankDrive.Proofs.Watchdog.Trace
import TankDrive.CommandPlane
/-!
# 武装した watchdog が言うこと

watchdog の状態 `armed` は「指令が新しいか、止まっている」ことを表すつもりの名前だが、
見回りの確かめで止める書き込みに失敗したときは、状態を変えずに次の見回りでまた試す。
そのため見回りの直後に武装していても、言えるのは次の三つのどれかである
（`tick_armed_fresh_stopped_or_failed`）。

* 最後の指令は期限内。
* 止まっている。
* この見回りの確かめで、止める書き込みが失敗した。

受け口の健康状態は、線が生きていれば watchdog の状態だけで決まり、watchdog の失敗は
受け口の線の健康に入らない。したがって、受け口の知らせが `ok` で、止まっておらず、最後の
指令が期限を過ぎているのは、見回りの止める書き込みが失敗したときに限られ、実際に起こる
（`armed_while_stale_after_failed_stop`）。
-/

namespace TankDrive

open Controller

/-- 状態の知らせは、電圧と止まりの印と、線が生きていれば watchdog の状態から決まる健康状態。 -/
theorem CommandPlane.status_go (p : CommandPlane) (alarm : Alarm) (m : Machine) :
    (p.status alarm).go m =
      (.ok ⟨m.motor.voltage, m.motor.stopped, if p.linkOk then Health.ofAlarm alarm else .linkDown⟩,
        m) := rfl

theorem Health.ofAlarm_eq_ok {alarm : Alarm} (h : Health.ofAlarm alarm = .ok) : alarm = .armed := by
  cases alarm
  · rfl
  · cases h

namespace World

variable {setup : Setup}

/-- 見回りが終わった直後に watchdog が武装していれば、最後の指令は期限内か、止まっているか、
この見回りの確かめで止める書き込みが失敗したかのどれか。したがって、線が生きている受け口の
知らせが `ok` で止まっておらず期限を過ぎていれば、止める書き込みが失敗している。 -/
theorem tick_armed_fresh_stopped_or_failed (x : World) (now : Nat)
    (hret : ((x.watchdog.tick setup now).go x.machine).1.isOk = true) :
    let y := x.step setup (.tick now)
    (y.watchdog.alarm = .armed →
      now - y.machine.motor.lastCommand ≤ y.watchdog.deadlineMs * 1000000 ∨
      y.machine.motor.stopped = true ∨ ∃ e, x.check setup (.tick now) = some (.ok (.error e))) ∧
    ∀ p : CommandPlane, p.linkOk = true → ∀ st, ((p.status y.watchdog.alarm).go y.machine).1 = .ok st →
      st.health = .ok → st.stopped = false →
      y.watchdog.deadlineMs * 1000000 < now - y.machine.motor.lastCommand →
        ∃ e, x.check setup (.tick now) = some (.ok (.error e)) := by
  intro y
  have hw : (x.step setup (.tick now)).watchdog = _ := step_tick_watchdog x now
  have hlast : (x.step setup (.tick now)).machine.motor.lastCommand = _ := tick_keeps_lastCommand x now
  have harmed : y.watchdog.alarm = .armed →
      now - y.machine.motor.lastCommand ≤ y.watchdog.deadlineMs * 1000000 ∨
      y.machine.motor.stopped = true ∨ ∃ e, x.check setup (.tick now) = some (.ok (.error e)) := by
    intro ha
    -- 確かめの結果で場合を分ける。中断なら見回りは終わらない
    rcases hc : ((x.watchdog.check setup now).go x.machine).1 with a | (e | (_ | _ | elapsed))
    · rw [(x.watchdog.tick_spec setup now x.machine).1, hc] at hret
      cases hret
    · exact .inr (.inr ⟨e, by simp [check, hc]⟩)
    · left
      have hfresh := (stopIfStale_fresh hc).1
      simp only [y, hlast, hw, hc, Watchdog.after]
      exact hfresh
    · exact .inr (.inl (tick_stops x now (.inr (by simp [check, hc]))))
    · simp only [y, hw, hc, Watchdog.after] at ha
      cases ha
  refine ⟨harmed, fun p hp st hst hok hstop hstale => ?_⟩
  rw [CommandPlane.status_go, hp, if_pos rfl] at hst
  cases hst
  rcases harmed (Health.ofAlarm_eq_ok hok) with h | h | h
  · omega
  · rw [h] at hstop
    cases hstop
  · exact h

/-- 既定の設定で始動して両側に `1.0` を指令し、書き込みが壊れた状態。 -/
def staleWithBrokenWrites : World :=
  let setup := Setup.ofConfig {}
  let x : World := ⟨((Controller.start setup).go (Machine.fresh "mem" {} 0)).2,
    { deadlineMs := 1000, pollMs := 100 }⟩
  ((x.step setup (.locked (.setEsc .left 1.0))).step setup (.locked (.setEsc .right 1.0))).step
    setup (.outside (.failWrites true))

theorem staleWithBrokenWrites_reachable : Reachable (Setup.ofConfig {}) staleWithBrokenWrites := by
  have h₀ : Reachable (Setup.ofConfig {})
      ⟨((Controller.start (Setup.ofConfig {})).go (Machine.fresh "mem" {} 0)).2,
        { deadlineMs := 1000, pollMs := 100 }⟩ := .start rfl (by decide) _ rfl
  exact ((h₀.step (.locked (.setEsc .left 1.0))).step (.locked (.setEsc .right 1.0))).step
    (.outside (.failWrites true))

/-- その状態で期限を過ぎて見回ると、見回りは終わり、止める書き込みが失敗して武装したまま。 -/
theorem staleWithBrokenWrites_tick_armed :
    let z := staleWithBrokenWrites.step (Setup.ofConfig {}) (.tick 3000000000)
    ((staleWithBrokenWrites.watchdog.tick (Setup.ofConfig {}) 3000000000).go
        staleWithBrokenWrites.machine).1.isOk = true ∧
    (z.watchdog.alarm = .armed →
      3000000000 - z.machine.motor.lastCommand ≤ z.watchdog.deadlineMs * 1000000 ∨
      z.machine.motor.stopped = true ∨
      ∃ e, staleWithBrokenWrites.check (Setup.ofConfig {}) (.tick 3000000000) = some (.ok (.error e))) ∧
    ∀ p : CommandPlane, p.linkOk = true → ∀ st, ((p.status z.watchdog.alarm).go z.machine).1 = .ok st →
      st.health = .ok → st.stopped = false →
      z.watchdog.deadlineMs * 1000000 < 3000000000 - z.machine.motor.lastCommand →
        ∃ e, staleWithBrokenWrites.check (Setup.ofConfig {}) (.tick 3000000000) = some (.ok (.error e)) := by
  intro z
  have hret : ((staleWithBrokenWrites.watchdog.tick (Setup.ofConfig {}) 3000000000).go
      staleWithBrokenWrites.machine).1.isOk = true := by decide
  exact ⟨hret, tick_armed_fresh_stopped_or_failed staleWithBrokenWrites 3000000000 hret⟩

/-- 見回りが終わった直後に武装した watchdog でも、最後の指令が期限を過ぎ、止まっていないことが
ある。そのとき線が生きている受け口の知らせは、健康状態 `ok` で、止まっていないと言う。 -/
theorem armed_while_stale_after_failed_stop :
    let setup := Setup.ofConfig {}
    let z := staleWithBrokenWrites.step setup (.tick 3000000000)
    Reachable setup z ∧
    ((staleWithBrokenWrites.watchdog.tick setup 3000000000).go staleWithBrokenWrites.machine).1.isOk =
      true ∧
    z.watchdog.alarm = .armed ∧
    z.watchdog.deadlineMs * 1000000 < 3000000000 - z.machine.motor.lastCommand ∧
    z.machine.motor.stopped = false ∧
    ∃ v, ((({ linkOk := true } : CommandPlane).status z.watchdog.alarm).go z.machine).1 =
      .ok ⟨v, false, .ok⟩ := by
  intro setup z
  have harmed : z.watchdog.alarm = .armed := by decide
  have hstop : z.machine.motor.stopped = false := by decide
  refine ⟨staleWithBrokenWrites_reachable.step _, by decide, harmed, by decide, hstop,
    z.machine.motor.voltage, ?_⟩
  rw [CommandPlane.status_go, hstop, harmed]
  rfl

end World

end TankDrive
