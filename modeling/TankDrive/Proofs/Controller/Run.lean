import TankDrive.Controller.Drive
import TankDrive.Proofs.Throttle.Rest
/-!
# 制御器の操作を走らせる

制御器の操作は `Act`（`ExceptT Abort (StateM Machine)`）と、その上に走行の誤りを重ねた
`Op` で書かれている。`Act.go` と `Op.go` は、状態から結果と後の状態を返す形に直したもので、
`>>=` は前の結果で場合分けする（`Op.go_bind`）。

制御器の状態のうち、指令、停止、後始末が読み書きする部分を `Core` にまとめる：線が開いて
いるか、送った byte、書き込みの故障、最後の指令の時刻、停止、スロットル、後始末の印、時計。
受信の待ち行列、telemetry、電圧、記録は入らない。各操作が `Core` に何を起こすかを、操作ごとに
一つの補題で言う。

* `pollTelemetry` は必ず終わり、`Core` を変えない（`pollTelemetry_core`）。
* `writePacket` と `send` は、成功すれば byte を足し、失敗すれば何も変えない（`Written`）。
* `stopTrack` は、中立の packet を書けたときだけ `none` を返し、そのときだけ足す。
* `stopAll` は、左右それぞれ書けたかどうかで決まり、両方書けたときだけ止める
  （`stopAll_core`）。
* `setEsc` は、成功すれば packet を一つ足して指令を記録し、失敗すれば何も変えない
  （`setEsc_core`）。

どの補題も、書き込みがどこで失敗するか（線が閉じている、誤り、中断）によらない形で言う。
-/

namespace TankDrive.Controller

open Wire Throttle

/-! ## 操作を走らせる -/

/-- 操作を状態 `m` から走らせた結果と後の状態。 -/
def Act.go (x : Act α) (m : Machine) : Except Abort α × Machine := x.run.run m

/-- 失敗しうる操作を状態 `m` から走らせた結果と後の状態。 -/
def Op.go (x : Op α) (m : Machine) : Except Abort (Except Error α) × Machine := x.run.run.run m

@[simp] theorem Act.go_pure (a : α) (m : Machine) : (pure a : Act α).go m = (.ok a, m) := rfl

@[simp] theorem Act.go_get (m : Machine) : (get : Act Machine).go m = (.ok m, m) := rfl

@[simp] theorem Act.go_set (m m' : Machine) : (set m' : Act PUnit).go m = (.ok ⟨⟩, m') := rfl

@[simp] theorem Act.go_modify (f : Machine → Machine) (m : Machine) :
    (modify f : Act PUnit).go m = (.ok ⟨⟩, f m) := rfl

@[simp] theorem Act.go_throwThe (a : Abort) (m : Machine) :
    (throwThe Abort a : Act α).go m = (.error a, m) := rfl

@[simp] theorem Act.go_attempt (x : Op α) (m : Machine) : (x.attempt : Act _).go m = x.go m :=
  rfl

@[simp] theorem Op.go_pure (a : α) (m : Machine) : (pure a : Op α).go m = (.ok (.ok a), m) := rfl

@[simp] theorem Op.go_get (m : Machine) : (get : Op Machine).go m = (.ok (.ok m), m) := rfl

@[simp] theorem Op.go_set (m m' : Machine) : (set m' : Op PUnit).go m = (.ok (.ok ⟨⟩), m') := rfl

@[simp] theorem Op.go_modify (f : Machine → Machine) (m : Machine) :
    (modify f : Op PUnit).go m = (.ok (.ok ⟨⟩), f m) := rfl

@[simp] theorem Op.go_throw (e : Error) (m : Machine) :
    (throw e : Op α).go m = (.ok (.error e), m) := rfl

@[simp] theorem Op.go_throwThe (a : Abort) (m : Machine) :
    (throwThe Abort a : Op α).go m = (.error a, m) := rfl

theorem Act.go_bind (x : Act α) (f : α → Act β) (m : Machine) :
    (x >>= f).go m = match x.go m with
      | (.ok a, m') => (f a).go m'
      | (.error a, m') => (.error a, m') := by
  simp only [Act.go, ExceptT.run_bind, StateT.run_bind]
  rcases x.run.run m with ⟨_ | _, m'⟩ <;> rfl

theorem Op.go_bind (x : Op α) (f : α → Op β) (m : Machine) :
    (x >>= f).go m = match x.go m with
      | (.ok (.ok a), m') => (f a).go m'
      | (.ok (.error e), m') => (.ok (.error e), m')
      | (.error a, m') => (.error a, m') := by
  simp only [Op.go, ExceptT.run_bind, StateT.run_bind]
  rcases x.run.run.run m with ⟨_ | _ | _, m'⟩ <;> rfl

theorem Act.go_map (f : α → β) (x : Act α) (m : Machine) :
    (f <$> x).go m = match x.go m with
      | (.ok a, m') => (.ok (f a), m')
      | (.error a, m') => (.error a, m') := by
  rw [map_eq_pure_bind, Act.go_bind]
  rcases x.go m with ⟨_ | _, m'⟩ <;> rfl

theorem Op.go_map (f : α → β) (x : Op α) (m : Machine) :
    (f <$> x).go m = match x.go m with
      | (.ok (.ok a), m') => (.ok (.ok (f a)), m')
      | (.ok (.error e), m') => (.ok (.error e), m')
      | (.error a, m') => (.error a, m') := by
  rw [map_eq_pure_bind, Op.go_bind]
  rcases x.go m with ⟨_ | _ | _, m'⟩ <;> rfl

/-- `Act` の操作を `Op` の中で走らせる。 -/
theorem Op.go_liftM (x : Act α) (m : Machine) :
    (liftM x : Op α).go m = match x.go m with
      | (.ok a, m') => (.ok (.ok a), m')
      | (.error a, m') => (.error a, m') := by
  simp only [Op.go, Act.go, liftM, monadLift, MonadLift.monadLift, ExceptT.lift, ExceptT.run_mk,
    ExceptT.run_map, StateT.run_map]
  rcases x.run.run m with ⟨_ | _, m'⟩ <;> rfl

@[simp] theorem emit_go (l : Log.Level) (s : Log.Source) (t : String) (m : Machine) :
    (emit l s t).go m = (.ok (), { m with log := m.log ++ [⟨l, s, t⟩] }) := rfl

/-! ## 指令の側から見た状態 -/

/-- 制御器のうち、指令、停止、後始末が読み書きする部分。 -/
structure Core where
  isOpen : Bool
  sent : Bytes
  failWrites : Bool
  abortWrites : Bool
  lastCommand : Nat
  stopped : Bool
  throttle : PerTrack Float
  done : Bool
  clock : Nat

/-- 制御器の `Core`。 -/
def Machine.core (m : Machine) : Core :=
  ⟨m.isOpen, m.device.sent, m.device.failWrites, m.device.abortWrites, m.motor.lastCommand,
    m.motor.stopped, m.motor.throttle, m.done, m.clock⟩

/-- 記録を書き足しても `Core` は変わらない。 -/
@[simp] theorem Machine.core_log (m : Machine) (l : List Log.Line) :
    ({ m with log := l }).core = m.core := rfl

namespace Core

/-- 送った byte に `data` を足す。 -/
def append (c : Core) (data : Bytes) : Core := { c with sent := c.sent ++ data }

/-- 両側のスロットルを 0 にして停止とする。 -/
def halt (c : Core) : Core := { c with throttle := PerTrack.both 0.0, stopped := true }

/-- 片側にスロットル `t` を指令したと記録する。時刻は今の時計、停止は両側が 0 のとき。 -/
def command (c : Core) (side : Track) (t : Float) : Core :=
  let th := c.throttle.set side t
  { c with lastCommand := c.clock, throttle := th, stopped := th.left == 0.0 && th.right == 0.0 }

@[simp] theorem append_nil (c : Core) : c.append [] = c := by simp [append]

@[simp] theorem sent_append (c : Core) (data : Bytes) : (c.append data).sent = c.sent ++ data := rfl

@[simp] theorem stopped_append (c : Core) (data : Bytes) : (c.append data).stopped = c.stopped := rfl

@[simp] theorem lastCommand_append (c : Core) (data : Bytes) :
    (c.append data).lastCommand = c.lastCommand := rfl

@[simp] theorem sent_halt (c : Core) : c.halt.sent = c.sent := rfl

@[simp] theorem stopped_halt (c : Core) : c.halt.stopped = true := rfl

@[simp] theorem lastCommand_halt (c : Core) : c.halt.lastCommand = c.lastCommand := rfl

@[simp] theorem append_append (c : Core) (a b : Bytes) :
    (c.append a).append b = c.append (a ++ b) := by
  simp [append, List.append_assoc]

end Core

/-! ## 線の読み書き -/

theorem writePacket_go (data : Bytes) (m : Machine) :
    (writePacket data).go m =
      if m.isOpen then
        match m.device.write data with
        | .aborted r => (.error ⟨r⟩, m)
        | .failed r => (.ok (.error (.link (.io r))), m)
        | .ok d => (.ok (.ok ()),
            { m with device := d, log := m.log ++ [⟨.debug, .link, "Sent " ++ Hex.bracketed data⟩] })
      else (.ok (.error (.link .closed)), m) := by
  simp only [writePacket, Op.go_bind, Op.go_get]
  cases m.isOpen
  · rfl
  · simp only [Bool.not_true, Bool.false_eq_true, ↓reduceIte]
    cases m.device.write data <;> simp [Op.go_bind, Op.go_liftM]

theorem readAvailable_go (m : Machine) :
    readAvailable.go m =
      if m.isOpen then
        match m.device.available with
        | .error r => (.ok (.error (.link (.io r))), m)
        | .ok 0 => (.ok (.ok []), m)
        | .ok _ => (.ok (.ok m.device.inbox), { m with device := { m.device with inbox := [] } })
      else (.ok (.error (.link .closed)), m) := by
  simp only [readAvailable, Op.go_bind, Op.go_get]
  cases m.isOpen
  · rfl
  · simp only [Bool.not_true, Bool.false_eq_true, ↓reduceIte]
    rcases m.device.available with _ | _ | _ <;> simp [Op.go_map, Device.drain]

/-- 書き込みを試みた結果：成功すれば `Core` に `data` を足し、失敗すれば（誤りでも中断でも）
`Core` を変えない。 -/
def Written (data : Bytes) (c : Core) : Except Abort (Except Error Unit) × Machine → Prop
  | (.ok (.ok ()), m') => m'.core = c.append data
  | (_, m') => m'.core = c

theorem writePacket_written (data : Bytes) (m : Machine) :
    Written data m.core ((writePacket data).go m) := by
  rw [writePacket_go]
  by_cases ho : m.isOpen
  · simp only [ho, if_true]
    cases hw : m.device.write data with
    | aborted r | failed r => rfl
    | ok d => simp [Written, Machine.core, Core.append, Device.eq_of_write_ok hw, ho]
  · simp only [ho, Bool.false_eq_true, if_false]
    rfl

/-- 受信を読んでも `Core` は変わらず、中断もしない。 -/
theorem readAvailable_core (m : Machine) :
    ∃ r m', readAvailable.go m = (.ok r, m') ∧ m'.core = m.core := by
  rw [readAvailable_go]
  by_cases h : m.isOpen
  · rcases m.device.available with _ | _ | _ <;> simp only [h, if_true] <;>
      exact ⟨_, _, rfl, by simp [Machine.core, h]⟩
  · simp only [h, Bool.false_eq_true, if_false]
    exact ⟨_, _, rfl, rfl⟩

/-- telemetry を読む操作は必ず終わり、`Core` を変えない。 -/
theorem pollTelemetry_core (m : Machine) :
    ∃ m', pollTelemetry.go m = (.ok (), m') ∧ m'.core = m.core := by
  obtain ⟨r, m', hgo, hcore⟩ := readAvailable_core m
  unfold pollTelemetry
  rw [Act.go_bind, Act.go_attempt, hgo]
  dsimp only
  split
  · -- 読めた byte を切り出しに渡し、電圧が読めれば覚える
    simp only [Act.go_bind, Act.go_get]
    split <;>
      (simp only [Act.go_bind, emit_go, Act.go_modify]
       split <;> simp [Act.go_bind, Machine.core] at hcore ⊢ <;> exact hcore)
  · exact ⟨_, rfl, hcore⟩
  · exact ⟨_, rfl, by simpa [Machine.core] using hcore⟩

/-- 失敗しうる操作の中で telemetry を読んでも、同じく必ず終わり、`Core` を変えない。 -/
theorem pollTelemetry_lift_core (m : Machine) :
    ∃ m', (liftM pollTelemetry : Op Unit).go m = (.ok (.ok ()), m') ∧ m'.core = m.core := by
  obtain ⟨m', h, hc⟩ := pollTelemetry_core m
  exact ⟨m', by rw [Op.go_liftM, h], hc⟩

/-! ## 一つの packet を送る -/

/-- 片側に速度 `speed` を送る packet。速度は `±1000` に飽和させる。 -/
def commandPacket (side : Track) (speed : Int) : Packet := ⟨side.slave, saturate speed, driveState⟩

theorem encode_commandPacket (side : Track) (speed : Int) :
    Packet.encode side.slave speed driveState = .ok (commandPacket side speed) := by
  cases side <;> rfl

/-- 片側の中立の packet：中立の速度 `restSpeed` を送る。 -/
def neutralPacket (setup : Setup) (side : Track) : Packet :=
  commandPacket side (setup.sides.get side).range.restSpeed

theorem neutralSpeed_eq (setup : Setup) (side : Track) :
    neutralSpeed setup side = .ok (setup.sides.get side).range.restSpeed := by
  simp only [neutralSpeed, Range.speed_rest]
  rfl

/-- packet を作って記録するだけで、`Core` は変わらない。 -/
theorem announce_go (side : Track) (speed : Int) (m : Machine) :
    ∃ m', (announce side speed).go m = (.ok (.ok (commandPacket side speed)), m') ∧
      m'.core = m.core := by
  simp only [announce, Op.go_bind, encode_commandPacket]
  exact ⟨_, rfl, rfl⟩

/-- 成功した結果か。 -/
def succeeded : Except Abort (Except Error α) → Bool
  | .ok (.ok _) => true
  | _ => false

theorem send_written (side : Track) (speed : Int) (m : Machine) :
    Written (commandPacket side speed).bytes m.core ((send side speed).go m) := by
  obtain ⟨m', h, hc⟩ := announce_go side speed m
  unfold send
  rw [Op.go_bind, h, ← hc]
  exact writePacket_written _ m'

/-! ## 片側を止める -/

/-- 片側を止める試みが中立の packet を書けたか。 -/
def wrote : Except Abort (Option Error) → Bool
  | .ok none => true
  | _ => false

@[simp] theorem wrote_none : wrote (.ok none) = true := rfl

@[simp] theorem wrote_some (e : Error) : wrote (.ok (some e)) = false := rfl

@[simp] theorem wrote_error (a : Abort) : wrote (.error a) = false := rfl

/-- 片側を止める試みは、中立の packet を書けたときだけ `none` を返し、そのときだけ足す。 -/
theorem stopTrack_core (setup : Setup) (side : Track) (m : Machine) :
    ((stopTrack setup side).go m).2.core =
      m.core.append (if wrote ((stopTrack setup side).go m).1 then
        (neutralPacket setup side).bytes else []) := by
  have hw := send_written side (setup.sides.get side).range.restSpeed m
  unfold stopTrack
  rw [Act.go_bind, Act.go_attempt, neutralSpeed_eq]
  dsimp only
  rcases h : (send side _).go m with ⟨_ | _ | ⟨⟩, m'⟩ <;> rw [h] at hw <;>
    simpa [Act.go_bind, Act.go_map, Written, neutralPacket] using hw

/-! ## 両側を止める -/

theorem core_halt (m : Machine) :
    ({ m with motor := { m.motor with throttle := PerTrack.both 0.0, stopped := true } }).core =
      m.core.halt := rfl

/-- 両側を止める操作は、左右それぞれ中立の packet を書けたかどうか（`wl`、`wr`）で決まる。
成功するのはちょうど両方書けたときで、そのときだけ止まったと記録する。 -/
theorem stopAll_core (setup : Setup) (m : Machine) : ∃ wl wr : Bool,
    (succeeded ((stopAll setup).go m).1 = (wl && wr)) ∧
    ((stopAll setup).go m).2.core =
      let c := m.core.append ((if wl then (neutralPacket setup .left).bytes else []) ++
        (if wr then (neutralPacket setup .right).bytes else []))
      if wl && wr then c.halt else c := by
  have hl := stopTrack_core setup .left m
  unfold stopAll
  rw [Op.go_bind, Op.go_liftM]
  rcases h₁ : (stopTrack setup .left).go m with ⟨r₁, m₁⟩
  rw [h₁] at hl
  -- 左で中断すれば、右は試さない
  rcases r₁ with a | e₁
  · exact ⟨false, false, rfl, by simpa [wrote] using hl⟩
  have hr := stopTrack_core setup .right m₁
  dsimp only
  rw [Op.go_bind, Op.go_liftM]
  rcases h₂ : (stopTrack setup .right).go m₁ with ⟨r₂, m₂⟩
  rw [h₂] at hr
  rcases r₂ with a | e₂
  · refine ⟨wrote (.ok e₁), false, by simp [succeeded], ?_⟩
    simp [hr, hl]
  -- 両側を試した後は、受信を読んでから最初の誤りを返す
  obtain ⟨m₃, h₃, hp⟩ := pollTelemetry_lift_core m₂
  dsimp only
  rw [Op.go_bind, h₃]
  refine ⟨wrote (.ok e₁), wrote (.ok e₂), ?_, ?_⟩ <;>
    rcases e₁ with _ | e₁ <;> rcases e₂ with _ | e₂ <;>
      simp_all [succeeded, core_halt, Option.orElse_eq_orElse]

/-! ## 片側に指令する -/

/-- 指令の前半は、NaN でなく速度が決まれば packet を作り、そうでなければ誤りを返す。
どちらでも `Core` は変えない。 -/
theorem prepareSetEsc_go (setup : Setup) (side : Track) (throttle : Float) (m : Machine) :
    (∃ speed m', throttle.isNaN = false ∧
      (setup.sides.get side).range.speed
        (if (setup.sides.get side).inverted then -clampUnit throttle else clampUnit throttle) =
          .ok speed ∧
      (prepareSetEsc setup side throttle).go m =
        (.ok (.ok (clampUnit throttle, commandPacket side speed)), m') ∧ m'.core = m.core) ∨
    ∃ e, (prepareSetEsc setup side throttle).go m = (.ok (.error e), m) := by
  unfold prepareSetEsc
  cases hn : throttle.isNaN with
  | true => exact .inr ⟨.throttle .notANumber, by simp⟩
  | false =>
    cases hs : (setup.sides.get side).range.speed
        (if (setup.sides.get side).inverted then -clampUnit throttle else clampUnit throttle) with
    | error e => exact .inr ⟨.throttle e, by simp [hs]⟩
    | ok speed =>
      obtain ⟨m', ha, hc⟩ := announce_go side speed m
      refine .inl ⟨speed, m', rfl, rfl, ?_, hc⟩
      simp [hs, Op.go_map, ha]

theorem core_command (m : Machine) (side : Track) (t : Float) :
    ({ m with motor := { m.motor with
        lastCommand := m.clock, throttle := m.motor.throttle.set side t,
        stopped := (m.motor.throttle.set side t).left == 0.0 &&
          (m.motor.throttle.set side t).right == 0.0 } }).core = m.core.command side t := rfl

/-- 指令は、成功すれば packet を一つ足して指令を記録し、失敗すれば `Core` を変えない。
成功するのは NaN でないスロットルのときで、packet の速度は、寄せたスロットルを（逆向きの側では
符号を変えて）写したもの。 -/
theorem setEsc_core (setup : Setup) (side : Track) (throttle : Float) (m : Machine) :
    (succeeded ((setEsc setup side throttle).go m).1 = true ∧ throttle.isNaN = false ∧ ∃ speed,
        (setup.sides.get side).range.speed
          (if (setup.sides.get side).inverted then -clampUnit throttle else clampUnit throttle) =
            .ok speed ∧
        ((setEsc setup side throttle).go m).2.core =
          (m.core.append (commandPacket side speed).bytes).command side (clampUnit throttle)) ∨
      (succeeded ((setEsc setup side throttle).go m).1 = false ∧
        ((setEsc setup side throttle).go m).2.core = m.core) := by
  unfold setEsc
  rw [Op.go_bind]
  rcases prepareSetEsc_go setup side throttle m with ⟨speed, m₁, hn, hs, hp, hc₁⟩ | ⟨e, hp⟩
  · rw [hp]
    dsimp only
    have hw := writePacket_written (commandPacket side speed).bytes m₁
    unfold finishSetEsc
    rw [Op.go_bind]
    rcases h : (writePacket (commandPacket side speed).bytes).go m₁ with ⟨r, m₂⟩
    rw [h] at hw
    rcases r with a | e | ⟨⟩
    · exact .inr ⟨rfl, by rw [hw, hc₁]⟩
    · exact .inr ⟨rfl, by rw [hw, hc₁]⟩
    · -- 書けたら指令を記録し、受信を読む
      dsimp only
      rw [Op.go_bind, Op.go_modify]
      dsimp only
      obtain ⟨m₃, h₃, hc₃⟩ := pollTelemetry_lift_core { m₂ with motor := { m₂.motor with
        lastCommand := m₂.clock, throttle := m₂.motor.throttle.set side (clampUnit throttle),
        stopped := (m₂.motor.throttle.set side (clampUnit throttle)).left == 0.0 &&
          (m₂.motor.throttle.set side (clampUnit throttle)).right == 0.0 } }
      rw [h₃]
      refine .inl ⟨rfl, hn, speed, hs, ?_⟩
      rw [hc₃, core_command, hw, hc₁]
  · rw [hp]
    exact .inr ⟨rfl, rfl⟩

/-! ## 古さの確かめ、受信、後始末、始動 -/

/-- 期限内なら `fresh`、過ぎていてもう止まっていれば `idle`、そうでなければ両側を止める。 -/
theorem stopIfStale_go (setup : Setup) (deadline now : Nat) (m : Machine) :
    (stopIfStale setup deadline now).go m =
      if now - m.motor.lastCommand ≤ deadline then (.ok (.ok .fresh), m)
      else if m.motor.stopped then (.ok (.ok .idle), m)
      else match (stopAll setup).go m with
        | (.ok (.ok ()), m') => (.ok (.ok (.tripped (now - m.motor.lastCommand))), m')
        | (.ok (.error e), m') => (.ok (.error e), m')
        | (.error a, m') => (.error a, m') := by
  simp only [stopIfStale, Op.go_bind, Op.go_get]
  split
  · rfl
  · split
    · rfl
    · rw [Op.go_bind]
      rcases (stopAll setup).go m with ⟨_ | _ | _, m'⟩ <;> rfl

/-- 古さの確かめは三通りに分かれる。期限内なら何も変えず `fresh`。過ぎていて止まっていれば
何も変えず `idle`。過ぎていて動いていれば両側を止める操作そのもので、成功するのはちょうど両側に
書けたときで、そのときの結果は経過時間つきの `tripped`。 -/
theorem stopIfStale_spec (setup : Setup) (deadline now : Nat) (m : Machine) :
    (now - m.motor.lastCommand ≤ deadline ∧
      (stopIfStale setup deadline now).go m = (.ok (.ok .fresh), m)) ∨
    (deadline < now - m.motor.lastCommand ∧ m.motor.stopped = true ∧
      (stopIfStale setup deadline now).go m = (.ok (.ok .idle), m)) ∨
    (deadline < now - m.motor.lastCommand ∧ m.motor.stopped = false ∧ ∃ wl wr : Bool,
      succeeded ((stopIfStale setup deadline now).go m).1 = (wl && wr) ∧
      (∀ r, ((stopIfStale setup deadline now).go m).1 = .ok (.ok r) →
        r = .tripped (now - m.motor.lastCommand)) ∧
      ((stopIfStale setup deadline now).go m).2.core =
        let c := m.core.append ((if wl then (neutralPacket setup .left).bytes else []) ++
          (if wr then (neutralPacket setup .right).bytes else []))
        if wl && wr then c.halt else c) := by
  rw [stopIfStale_go]
  by_cases hfresh : now - m.motor.lastCommand ≤ deadline
  · exact .inl ⟨hfresh, by rw [if_pos hfresh]⟩
  rw [if_neg hfresh]
  cases hs : m.motor.stopped
  · -- 動いていれば、結果も `Core` も両側を止める操作で決まる
    obtain ⟨wl, wr, hok, hc⟩ := stopAll_core setup m
    refine .inr (.inr ⟨by omega, rfl, wl, wr, ?_⟩)
    simp only [Bool.false_eq_true, if_false]
    rcases h : (stopAll setup).go m with ⟨_ | _ | ⟨⟩, m'⟩ <;> rw [h] at hok hc <;> dsimp only
    · exact ⟨hok, fun _ hr => by simp at hr, hc⟩
    · exact ⟨hok, fun _ hr => by simp at hr, hc⟩
    · exact ⟨hok, fun _ hr => by simp at hr; exact hr.symm, hc⟩
  · exact .inr (.inl ⟨by omega, rfl, rfl⟩)

theorem refreshTelemetry_core (m : Machine) :
    ∃ m', refreshTelemetry.go m = (.ok m'.motor.voltage, m') ∧ m'.core = m.core := by
  obtain ⟨m', h, hc⟩ := pollTelemetry_core m
  refine ⟨m', ?_, hc⟩
  simp only [refreshTelemetry, Act.go_bind, h]
  rfl

theorem beginCleanup_go (m : Machine) :
    beginCleanup.go m =
      if m.done then (.ok false, m)
      else (.ok true,
        { m with done := true, log := m.log ++ [⟨.info, .controller, "Shutting down motor controller"⟩] })
      := by
  simp only [beginCleanup, Act.go_bind, Act.go_get]
  split <;> rfl

theorem closeLink_go (m : Machine) :
    closeLink.go m =
      if m.isOpen then
        (.ok (), { m with isOpen := false, log := m.log ++ [⟨.info, .link, "Closed serial link " ++ m.name⟩] })
      else (.ok (), m) := by
  simp only [closeLink, Act.go_bind, Act.go_get]
  split <;> rfl

/-- 後始末の停止は、誤りを記録するだけで、`Core` には `stopAll` と同じことを起こす。 -/
theorem finalStop_core (setup : Setup) (m : Machine) :
    ((finalStop setup).go m).2.core = ((stopAll setup).go m).2.core := by
  simp only [finalStop, Act.go_bind, Act.go_attempt]
  rcases (stopAll setup).go m with ⟨_ | _ | _, m'⟩ <;> rfl

theorem skipFinalStop_core (m : Machine) : ((skipFinalStop).go m).2.core = m.core := rfl

/-- 始動が成功すれば、両側に中立の packet を左、右の順に送り、止まったと記録している。 -/
theorem start_core (setup : Setup) (m : Machine) (h : succeeded ((start setup).go m).1 = true) :
    ((start setup).go m).2.core =
      (m.core.append ((neutralPacket setup .left).bytes ++ (neutralPacket setup .right).bytes)).halt := by
  obtain ⟨wl, wr, hok, hc⟩ := stopAll_core setup m
  unfold start at h ⊢
  rw [Op.go_bind, Op.go_liftM, Act.go_attempt] at h ⊢
  rcases hs : (stopAll setup).go m with ⟨_ | _ | ⟨⟩, m'⟩ <;> rw [hs] at hok hc h
  · cases h
  · cases h
  · -- 両側とも書けた
    obtain ⟨rfl, rfl⟩ : wl = true ∧ wr = true := by simpa [succeeded] using hok.symm
    simpa [Op.go_bind, Op.go_liftM] using hc

end TankDrive.Controller
