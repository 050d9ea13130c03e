import TankDrive.Proofs.Controller.Run
/-!
# 失敗した指令と停止

指令（`setEsc`）が誤りを返すのは、ちょうど、スロットルが NaN か、線が閉じているか、装置への
書き込みが失敗するとき（`setEsc_error_iff`）。NaN は鍵を取る前に断られ、閉じた線と書き込みの失敗は
packet を記録した後、書き込むところで断られる。どちらでも状態を書き換える前なので、誤りでも
書き込みの中断でも、制御器は記録のほかは何も変わらない（`setEsc_failed_untouched`）：走行の状態、
telemetry の切り出し、送った byte、受信の待ち行列のどれも。

停止（`stopAll`）とその古さの確かめ（`stopIfStale`）は最後の指令の時刻を変えず、誤りを返すときは
スロットルも停止の印も変えない。送った byte には、書けた側の中立の packet だけが左、右の順に
足されている（`stopAll_failed`、`stopIfStale_failed_sent`）。

## 主な定理

* `drive_errors_leave_state`：上のことと、成功した指令の効果（packet を一つ足し、時刻、その側の
  スロットル、停止の印を更新する）をまとめたもの。
-/

namespace TankDrive.Controller

open Wire Throttle Binary64

/-! ## 記録のほかは変わらない -/

/-- `m'` は `m` に記録を足しただけの状態：記録のほかは何も変わらない。 -/
def Machine.Untouched (m m' : Machine) : Prop := m' = { m with log := m'.log }

theorem Machine.Untouched.refl (m : Machine) : m.Untouched m := rfl

theorem Machine.Untouched.trans {m₁ m₂ m₃ : Machine} (h₁ : m₁.Untouched m₂) (h₂ : m₂.Untouched m₃) :
    m₁.Untouched m₃ := by
  rw [Machine.Untouched] at h₁ h₂ ⊢
  rw [h₂, h₁]

theorem Machine.Untouched.isOpen {m m' : Machine} (h : m.Untouched m') : m'.isOpen = m.isOpen := by
  rw [h]

theorem Machine.Untouched.device {m m' : Machine} (h : m.Untouched m') : m'.device = m.device := by
  rw [h]

/-! ## 書き込み -/

/-- 失敗しうる操作の中で受信を読む操作は、必ず成功する。 -/
theorem pollTelemetry_lift_succeeded (m : Machine) :
    succeeded ((liftM pollTelemetry : Op Unit).go m).1 = true := by
  obtain ⟨m', h, -⟩ := pollTelemetry_lift_core m
  rw [h]
  rfl

/-- 書き込みの結果は線と装置の状態で決まる。閉じた線では `closed`、中断が失敗より先に効く。 -/
theorem writePacket_result (data : Bytes) (m : Machine) :
    ((writePacket data).go m).1 =
      if m.isOpen then
        if m.device.abortWrites then .error ⟨"mock write panic"⟩
        else if m.device.failWrites then .ok (.error (.link (.io "mock write failure")))
        else .ok (.ok ())
      else .ok (.error (.link .closed)) := by
  rw [writePacket_go]
  cases m.isOpen
  · rfl
  · simp only [if_true]
    unfold Device.write
    cases m.device.abortWrites <;> cases m.device.failWrites <;> rfl

/-- 書けなかった書き込みは、状態を何も変えない。 -/
theorem writePacket_failed_state {data : Bytes} {m : Machine}
    (h : succeeded ((writePacket data).go m).1 = false) : ((writePacket data).go m).2 = m := by
  rw [writePacket_go] at h ⊢
  split
  · split
    · rfl
    · rfl
    · rename_i hw
      simp only [*, if_true] at h
      cases h
  · rfl

/-- 書き込みが誤りを返すのは、ちょうど線が閉じているか、装置への書き込みが失敗するとき。 -/
theorem writePacket_error_iff (data : Bytes) (m : Machine) :
    (∃ e, ((writePacket data).go m).1 = .ok (.error e)) ↔
      m.isOpen = false ∨ (m.device.abortWrites = false ∧ m.device.failWrites = true) := by
  rw [writePacket_result]
  cases m.isOpen <;> cases m.device.abortWrites <;> cases m.device.failWrites <;> simp

/-! ## 指令 -/

/-- packet を作って記録するだけで、ほかは何も変えない。 -/
theorem announce_untouched (side : Track) (speed : Int) (m : Machine) :
    ∃ m', (announce side speed).go m = (.ok (.ok (commandPacket side speed)), m') ∧ m.Untouched m' := by
  simp only [announce, Op.go_bind, encode_commandPacket]
  exact ⟨_, rfl, rfl⟩

section SetEsc

variable (setup : Setup) (side : Track) (t : Float) (m : Machine)

/-- NaN のスロットルは、何も変えずに断る。 -/
theorem prepareSetEsc_of_isNaN (h : t.isNaN = true) :
    (prepareSetEsc setup side t).go m = (.ok (.error (.throttle .notANumber)), m) := by
  unfold prepareSetEsc
  rw [h, if_pos rfl, Op.go_bind, Op.go_throw]

/-- NaN でないスロットルは必ず速度に写り、packet を記録するだけで、ほかは何も変えない。 -/
theorem prepareSetEsc_of_not_isNaN (h : t.isNaN = false) : ∃ speed m',
    (setup.sides.get side).range.speed
      (if (setup.sides.get side).inverted then -clampUnit t else clampUnit t) = .ok speed ∧
    (prepareSetEsc setup side t).go m = (.ok (.ok (clampUnit t, commandPacket side speed)), m') ∧
    m.Untouched m' := by
  obtain ⟨speed, hs⟩ := (setup.sides.get side).range.speed_of_not_isNaN
    (directed_not_isNaN h (setup.sides.get side).inverted)
  obtain ⟨m', ha, hu⟩ := announce_untouched side speed m
  refine ⟨speed, m', hs, ?_, hu⟩
  unfold prepareSetEsc
  rw [h, if_neg Bool.false_ne_true]
  simp only [hs]
  rw [Op.go_bind, ha]
  rfl

/-- 書けなかった指令の後半は、書き込みの結果をそのまま返し、状態を何も変えない。 -/
theorem finishSetEsc_of_failed {p : Packet}
    (h : succeeded ((writePacket p.bytes).go m).1 = false) :
    (finishSetEsc side t p).go m = (writePacket p.bytes).go m := by
  have hs := writePacket_failed_state h
  unfold finishSetEsc
  rw [Op.go_bind]
  rcases hw : (writePacket p.bytes).go m with ⟨_ | _ | ⟨⟩, m'⟩
  · rfl
  · rfl
  · rw [hw] at h
    cases h

/-- 書けた指令の後半は、受信を読んで必ず成功する。 -/
theorem finishSetEsc_of_written {p : Packet}
    (h : succeeded ((writePacket p.bytes).go m).1 = true) :
    succeeded ((finishSetEsc side t p).go m).1 = true := by
  unfold finishSetEsc
  rw [Op.go_bind]
  rcases hw : (writePacket p.bytes).go m with ⟨_ | _ | ⟨⟩, m'⟩
  · rw [hw] at h; cases h
  · rw [hw] at h; cases h
  · dsimp only
    rw [Op.go_bind, Op.go_modify]
    exact pollTelemetry_lift_succeeded _

/-- 指令は、NaN なら何も変えずに断り、そうでなければ packet を記録してから後半を走らせる。 -/
theorem setEsc_go_of_not_isNaN (h : t.isNaN = false) : ∃ speed m',
    (setup.sides.get side).range.speed
      (if (setup.sides.get side).inverted then -clampUnit t else clampUnit t) = .ok speed ∧
    m.Untouched m' ∧
    (setEsc setup side t).go m = (finishSetEsc side (clampUnit t) (commandPacket side speed)).go m' := by
  obtain ⟨speed, m', hs, hp, hu⟩ := prepareSetEsc_of_not_isNaN setup side t m h
  refine ⟨speed, m', hs, hu, ?_⟩
  unfold setEsc
  rw [Op.go_bind, hp]

/-- 指令が誤りを返すのは、ちょうど、スロットルが NaN か、線が閉じているか、装置への書き込みが
失敗するとき。 -/
theorem setEsc_error_iff :
    (∃ e, ((setEsc setup side t).go m).1 = .ok (.error e)) ↔
      t.isNaN = true ∨ m.isOpen = false ∨
        (m.device.abortWrites = false ∧ m.device.failWrites = true) := by
  cases hn : t.isNaN with
  | true =>
    unfold setEsc
    rw [Op.go_bind, prepareSetEsc_of_isNaN setup side t m hn]
    exact ⟨fun _ => .inl rfl, fun _ => ⟨_, rfl⟩⟩
  | false =>
    obtain ⟨speed, m', -, hu, hgo⟩ := setEsc_go_of_not_isNaN setup side t m hn
    rw [hgo, ← hu.isOpen, ← hu.device, ← writePacket_error_iff (commandPacket side speed).bytes m']
    simp only [Bool.false_eq_true, false_or]
    -- 書けたかどうかで、後半の結果は書き込みの結果か成功
    cases hw : succeeded ((writePacket (commandPacket side speed).bytes).go m').1
    · rw [finishSetEsc_of_failed side (clampUnit t) m' hw]
    · have hf := finishSetEsc_of_written side (clampUnit t) m' hw
      constructor
      · rintro ⟨e, he⟩
        rw [he] at hf
        cases hf
      · rintro ⟨e, he⟩
        rw [he] at hw
        cases hw

/-- 成功しなかった指令（誤りでも中断でも）は、記録のほかは何も変えない。 -/
theorem setEsc_failed_untouched (h : succeeded ((setEsc setup side t).go m).1 = false) :
    m.Untouched ((setEsc setup side t).go m).2 := by
  cases hn : t.isNaN with
  | true =>
    unfold setEsc at h ⊢
    rw [Op.go_bind, prepareSetEsc_of_isNaN setup side t m hn]
    exact Machine.Untouched.refl m
  | false =>
    obtain ⟨speed, m', -, hu, hgo⟩ := setEsc_go_of_not_isNaN setup side t m hn
    rw [hgo] at h ⊢
    cases hw : succeeded ((writePacket (commandPacket side speed).bytes).go m').1
    · rw [finishSetEsc_of_failed side (clampUnit t) m' hw, writePacket_failed_state hw]
      exact hu
    · rw [finishSetEsc_of_written side (clampUnit t) m' hw] at h
      cases h

end SetEsc

/-! ## 停止 -/

section Stop

variable (setup : Setup) (m : Machine)

/-- 両側を止める操作は、最後の指令の時刻を変えない。 -/
theorem stopAll_lastCommand : ((stopAll setup).go m).2.motor.lastCommand = m.motor.lastCommand := by
  obtain ⟨wl, wr, -, hc⟩ := stopAll_core setup m
  have h := congrArg Core.lastCommand hc
  dsimp only at h
  split at h <;> simpa [Machine.core] using h

/-- 両側を止める操作が誤りを返すときは、スロットルも停止の印も変わらず、送った byte には
書けた側の中立の packet だけが左、右の順に足されている（両側とも書けてはいない）。 -/
theorem stopAll_failed {e : Error} (h : ((stopAll setup).go m).1 = .ok (.error e)) :
    ((stopAll setup).go m).2.motor.throttle = m.motor.throttle ∧
    ((stopAll setup).go m).2.motor.stopped = m.motor.stopped ∧
    ∃ wl wr : Bool, (wl && wr) = false ∧
      ((stopAll setup).go m).2.device.sent = m.device.sent ++
        ((if wl then (neutralPacket setup .left).bytes else []) ++
          (if wr then (neutralPacket setup .right).bytes else [])) := by
  obtain ⟨wl, wr, hok, hc⟩ := stopAll_core setup m
  have hnot : (wl && wr) = false := by rw [← hok, h]; rfl
  rw [if_neg (by simp [hnot])] at hc
  exact ⟨congrArg Core.throttle hc, congrArg Core.stopped hc, wl, wr, hnot, congrArg Core.sent hc⟩

/-- 古さの確かめは最後の指令の時刻を変えず、誤りを返すときは、両側を止める操作が誤りを返した
ときと同じことが言える。 -/
theorem stopIfStale_failed_sent (deadline now : Nat) :
    ((stopIfStale setup deadline now).go m).2.motor.lastCommand = m.motor.lastCommand ∧
    ∀ e, ((stopIfStale setup deadline now).go m).1 = .ok (.error e) →
      ((stopIfStale setup deadline now).go m).2.motor.throttle = m.motor.throttle ∧
      ((stopIfStale setup deadline now).go m).2.motor.stopped = m.motor.stopped ∧
      ∃ wl wr : Bool, (wl && wr) = false ∧
        ((stopIfStale setup deadline now).go m).2.device.sent = m.device.sent ++
          ((if wl then (neutralPacket setup .left).bytes else []) ++
            (if wr then (neutralPacket setup .right).bytes else [])) := by
  rw [stopIfStale_go]
  split
  · exact ⟨rfl, fun _ h => by cases h⟩
  · split
    · exact ⟨rfl, fun _ h => by cases h⟩
    · -- 動いていれば、両側を止める操作の結果と状態がそのまま出る
      have hlast := stopAll_lastCommand setup m
      have hfail : ∀ e, ((stopAll setup).go m).1 = .ok (.error e) → _ :=
        fun e h => stopAll_failed setup m h
      rcases hs : (stopAll setup).go m with ⟨_ | _ | ⟨⟩, m'⟩ <;> rw [hs] at hlast hfail <;>
        dsimp only
      · exact ⟨hlast, fun _ h => by cases h⟩
      · exact ⟨hlast, fun e h => hfail e (by cases h; rfl)⟩
      · exact ⟨hlast, fun _ h => by cases h⟩

end Stop

/-! ## 主な定理 -/

/-- 指令と停止の誤り。

* 指令が誤りを返すのは、ちょうど、スロットルが NaN か、線が閉じているか、装置への書き込みが
  失敗するとき。成功しなかった指令は、記録のほかは何も変えない。成功した指令は、その側に宛てた
  packet を一つだけ足す。速度は、`[-1, 1]` に寄せたスロットル（逆向きの側では符号を変えたもの）を
  写したもので、packet の中では `±1000` に飽和させる。時刻は今の時計、その側のスロットルは寄せた
  値になり、停止の印は両側が `== 0.0` かどうか。
* 停止と古さの確かめは最後の指令の時刻を変えない。誤りを返すときはスロットルも停止の印も
  変えず、送った byte には書けた側の中立の packet だけが左、右の順に足される。 -/
theorem drive_errors_leave_state (setup : Setup) :
    (∀ (m : Machine) (side : Track) (t : Float),
      ((∃ e, ((setEsc setup side t).go m).1 = .ok (.error e)) ↔
        t.isNaN = true ∨ m.isOpen = false ∨
          (m.device.abortWrites = false ∧ m.device.failWrites = true)) ∧
      (succeeded ((setEsc setup side t).go m).1 = false →
        ((setEsc setup side t).go m).2 = { m with log := ((setEsc setup side t).go m).2.log }) ∧
      (succeeded ((setEsc setup side t).go m).1 = true → ∃ speed,
        (setup.sides.get side).range.speed
          (if (setup.sides.get side).inverted then -clampUnit t else clampUnit t) = .ok speed ∧
        ((setEsc setup side t).go m).2.device.sent = m.device.sent ++ (commandPacket side speed).bytes ∧
        ((setEsc setup side t).go m).2.motor.lastCommand = m.clock ∧
        ((setEsc setup side t).go m).2.motor.throttle = m.motor.throttle.set side (clampUnit t) ∧
        ((setEsc setup side t).go m).2.motor.stopped =
          (((setEsc setup side t).go m).2.motor.throttle.left == 0.0 &&
            ((setEsc setup side t).go m).2.motor.throttle.right == 0.0))) ∧
    (∀ m : Machine,
      ((stopAll setup).go m).2.motor.lastCommand = m.motor.lastCommand ∧
      ∀ e, ((stopAll setup).go m).1 = .ok (.error e) →
        ((stopAll setup).go m).2.motor.throttle = m.motor.throttle ∧
        ((stopAll setup).go m).2.motor.stopped = m.motor.stopped ∧
        ∃ wl wr : Bool, (wl && wr) = false ∧
          ((stopAll setup).go m).2.device.sent = m.device.sent ++
            ((if wl then (neutralPacket setup .left).bytes else []) ++
              (if wr then (neutralPacket setup .right).bytes else []))) ∧
    (∀ (deadline now : Nat) (m : Machine),
      ((stopIfStale setup deadline now).go m).2.motor.lastCommand = m.motor.lastCommand ∧
      ∀ e, ((stopIfStale setup deadline now).go m).1 = .ok (.error e) →
        ((stopIfStale setup deadline now).go m).2.motor.throttle = m.motor.throttle ∧
        ((stopIfStale setup deadline now).go m).2.motor.stopped = m.motor.stopped ∧
        ∃ wl wr : Bool, (wl && wr) = false ∧
          ((stopIfStale setup deadline now).go m).2.device.sent = m.device.sent ++
            ((if wl then (neutralPacket setup .left).bytes else []) ++
              (if wr then (neutralPacket setup .right).bytes else []))) := by
  refine ⟨fun m side t => ⟨setEsc_error_iff setup side t m, setEsc_failed_untouched setup side t m,
    fun hok => ?_⟩, fun m => ⟨stopAll_lastCommand setup m, fun e h => stopAll_failed setup m h⟩,
    fun deadline now m => stopIfStale_failed_sent setup m deadline now⟩
  -- 成功した指令は、`Core` の上で packet を一つ足して指令を記録したもの
  rcases setEsc_core setup side t m with ⟨-, -, speed, hs, hc⟩ | ⟨hfail, -⟩
  · refine ⟨speed, hs, congrArg Core.sent hc, congrArg Core.lastCommand hc,
      congrArg Core.throttle hc, ?_⟩
    rw [show ((setEsc setup side t).go m).2.motor.throttle = _ from congrArg Core.throttle hc]
    exact congrArg Core.stopped hc
  · rw [hok] at hfail
    cases hfail

/-- 閉じた線への指令は誤りを返し、記録のほかは何も変えない。 -/
theorem closed_link_command_refused :
    let setup := Setup.ofConfig {}
    let m := { Machine.fresh "mem" { inbox := [0xCD, 0xAB] } 0 with isOpen := false }
    (∃ e, ((setEsc setup .left 0.5).go m).1 = .ok (.error e)) ∧
      ((setEsc setup .left 0.5).go m).2 = { m with log := ((setEsc setup .left 0.5).go m).2.log } := by
  intro setup m
  have hfail : succeeded ((setEsc setup .left 0.5).go m).1 = false := by decide
  exact ⟨((drive_errors_leave_state setup).1 m .left 0.5).1.2 (.inr (.inl rfl)),
    ((drive_errors_leave_state setup).1 m .left 0.5).2.1 hfail⟩

end TankDrive.Controller
