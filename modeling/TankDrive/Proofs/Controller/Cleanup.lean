import TankDrive.Proofs.Controller.Failures
import TankDrive.Proofs.Watchdog.Trace
/-!
# 後始末は一度だけ効く

後始末（`cleanup`）は、まず後始末の印を見て、立っていれば何もしない（`cleanup_of_done`）。
立っていなければ印を立ててから、両側を止めにいき、設定の時間だけ待って、線を閉じる。止める
書き込みが失敗しても線は閉じる。書き込みが中断しない装置なら、後始末は必ず最後まで走る
（`cleanup_of_not_done`）。最初の一回で印が立つので、何度呼んでも一回呼んだのと同じで
（`cleanupTimes_succ`）、二回目からは書かず、待たず、何も変えない。

後始末を済ませた制御器（`Machine.Shut`：印が立ち、線は閉じている）は、どの区間でも、見回りでも、
外の出来事でもそのままである（`World.run_shut`）。閉じた線への NaN でない指令と停止は `closed` で
断られ、記録のほかは何も変えない（`setEsc_of_closed`、`stopAll_of_closed`）。受信を読む操作は
何も読まず、覚えている電圧を返す（`refreshTelemetry_of_closed`）。

記録については、後始末が info の重さで書くのは、始めの一行と、線が開いていたときだけ線を閉じた
一行である（`cleanup_info_lines`）。止める操作の記録はどれも info でない（`finalStop_quiet`）。

始動に失敗した制御器は、後始末を済ませたと印をつけて返すので、手放すときの後始末は何もしない
（`start_failed_done`）。

## 主な定理

* `cleanup_takes_effect_once`：上のことをまとめたもの。
-/

namespace TankDrive.Controller

open Wire Throttle

/-! ## 閉じた線 -/

section Closed

variable (setup : Setup) {m : Machine}

/-- 閉じた線への書き込みは `closed` で断られ、何も変えない。 -/
theorem writePacket_of_closed (data : Bytes) (h : m.isOpen = false) :
    (writePacket data).go m = (.ok (.error (.link .closed)), m) := by
  rw [writePacket_go, h, if_neg Bool.false_ne_true]

/-- 閉じた線からは何も読まず、何も記録しない。 -/
theorem pollTelemetry_of_closed (h : m.isOpen = false) : pollTelemetry.go m = (.ok (), m) := by
  unfold pollTelemetry
  rw [Act.go_bind, Act.go_attempt, readAvailable_go, h, if_neg Bool.false_ne_true]
  rfl

/-- 閉じた線では、受信を読む操作は覚えている電圧をそのまま返し、何も変えない。 -/
theorem refreshTelemetry_of_closed (h : m.isOpen = false) :
    refreshTelemetry.go m = (.ok m.motor.voltage, m) := by
  unfold refreshTelemetry
  rw [Act.go_bind, pollTelemetry_of_closed h]
  rfl

/-- 閉じた線で片側を止めにいくと、packet を記録してから `closed` で断られ、その誤りを記録して
返す。記録のほかは何も変えない。 -/
theorem stopTrack_of_closed (side : Track) (h : m.isOpen = false) :
    ∃ m', (stopTrack setup side).go m = (.ok (some (.link .closed)), m') ∧ m.Untouched m' := by
  obtain ⟨m₁, ha, hu⟩ := announce_untouched side (setup.sides.get side).range.restSpeed m
  have hw := writePacket_of_closed
    (commandPacket side (setup.sides.get side).range.restSpeed).bytes (hu.isOpen.trans h)
  unfold stopTrack send
  rw [Act.go_bind, Act.go_attempt, neutralSpeed_eq]
  dsimp only
  rw [Op.go_bind, ha]
  dsimp only
  rw [hw]
  exact ⟨_, rfl, hu.trans rfl⟩

/-- 閉じた線で両側を止めにいくと、両側とも `closed` で断られ、`closed` を返す。記録のほかは
何も変えない。 -/
theorem stopAll_of_closed (h : m.isOpen = false) :
    ∃ m', (stopAll setup).go m = (.ok (.error (.link .closed)), m') ∧ m.Untouched m' := by
  obtain ⟨m₁, h₁, hu₁⟩ := stopTrack_of_closed setup .left h
  obtain ⟨m₂, h₂, hu₂⟩ := stopTrack_of_closed setup .right (hu₁.isOpen.trans h)
  have hp := pollTelemetry_of_closed (hu₂.isOpen.trans (hu₁.isOpen.trans h))
  unfold stopAll
  rw [Op.go_bind, Op.go_liftM, h₁]
  dsimp only
  rw [Op.go_bind, Op.go_liftM, h₂]
  dsimp only
  rw [Op.go_bind, Op.go_liftM, hp]
  exact ⟨m₂, rfl, hu₁.trans hu₂⟩

/-- 閉じた線への NaN でない指令は、packet を記録してから `closed` で断られ、記録のほかは何も
変えない。 -/
theorem setEsc_of_closed (side : Track) {t : Float} (ht : t.isNaN = false) (h : m.isOpen = false) :
    ∃ m', (setEsc setup side t).go m = (.ok (.error (.link .closed)), m') ∧ m.Untouched m' := by
  obtain ⟨speed, m', -, hu, hgo⟩ := setEsc_go_of_not_isNaN setup side t m ht
  have hw := writePacket_of_closed (commandPacket side speed).bytes (hu.isOpen.trans h)
  have hfail : succeeded ((writePacket (commandPacket side speed).bytes).go m').1 = false := by
    rw [hw]
    rfl
  refine ⟨m', ?_, hu⟩
  rw [hgo, finishSetEsc_of_failed side (clampUnit t) m' hfail, hw]

/-- 閉じた線では、古さの確かめも記録のほかは何も変えない。 -/
theorem stopIfStale_of_closed (deadline now : Nat) (h : m.isOpen = false) :
    m.Untouched ((stopIfStale setup deadline now).go m).2 := by
  rw [stopIfStale_go]
  split
  · exact .refl m
  · split
    · exact .refl m
    · obtain ⟨m', hs, hu⟩ := stopAll_of_closed setup h
      rw [hs]
      exact hu

end Closed

/-! ## 中断しない書き込み -/

section NoAbort

variable (setup : Setup) {m : Machine}

/-- 書き込みが中断しない装置では、書き込みは中断しない。 -/
theorem writePacket_not_aborted (data : Bytes) (ha : m.device.abortWrites = false) :
    ∃ r, ((writePacket data).go m).1 = .ok r := by
  rw [writePacket_result, ha]
  cases m.isOpen <;> cases m.device.failWrites <;> exact ⟨_, rfl⟩

theorem send_not_aborted (side : Track) (speed : Int) (ha : m.device.abortWrites = false) :
    ∃ r, ((send side speed).go m).1 = .ok r := by
  obtain ⟨m₁, hann, hu⟩ := announce_untouched side speed m
  have ha₁ : m₁.device.abortWrites = false := by rw [hu.device]; exact ha
  obtain ⟨r, hr⟩ := writePacket_not_aborted (commandPacket side speed).bytes ha₁
  unfold send
  rw [Op.go_bind, hann]
  exact ⟨r, hr⟩

theorem stopTrack_not_aborted (side : Track) (ha : m.device.abortWrites = false) :
    ∃ e, ((stopTrack setup side).go m).1 = .ok e := by
  obtain ⟨r, hr⟩ := send_not_aborted side (setup.sides.get side).range.restSpeed ha
  unfold stopTrack
  rw [Act.go_bind, Act.go_attempt, neutralSpeed_eq]
  dsimp only
  rcases hs : (send side (setup.sides.get side).range.restSpeed).go m with ⟨_ | _ | ⟨⟩, m₁⟩
  · rw [hs] at hr
    cases hr
  · exact ⟨_, rfl⟩
  · exact ⟨_, rfl⟩

/-- 書き込みが中断しない装置では、両側を止める操作も中断しない。左を止める試みは装置の故障の
切り替えに触れないので、右を止めにいくときも書き込みは中断しない。 -/
theorem stopAll_not_aborted (ha : m.device.abortWrites = false) :
    ∃ r, ((stopAll setup).go m).1 = .ok r := by
  unfold stopAll
  rw [Op.go_bind, Op.go_liftM]
  rcases hs₁ : (stopTrack setup .left).go m with ⟨_ | e₁, m₁⟩
  · obtain ⟨_, h₁⟩ := stopTrack_not_aborted setup .left ha
    rw [hs₁] at h₁
    cases h₁
  have ha₁ : m₁.device.abortWrites = false := by
    have h := congrArg Core.abortWrites (stopTrack_core setup .left m)
    rw [hs₁] at h
    exact h.trans ha
  dsimp only
  rw [Op.go_bind, Op.go_liftM]
  rcases hs₂ : (stopTrack setup .right).go m₁ with ⟨_ | e₂, m₂⟩
  · obtain ⟨_, h₂⟩ := stopTrack_not_aborted setup .right ha₁
    rw [hs₂] at h₂
    cases h₂
  obtain ⟨m₃, h₃, -⟩ := pollTelemetry_lift_core m₂
  dsimp only
  rw [Op.go_bind, h₃]
  dsimp only
  split <;> exact ⟨_, rfl⟩

/-- 書き込みが中断しない装置では、後始末の停止は必ず成功する。止める操作の誤りは記録するだけ。 -/
theorem finalStop_ok (ha : m.device.abortWrites = false) : ((finalStop setup).go m).1 = .ok () := by
  obtain ⟨r, hr⟩ := stopAll_not_aborted setup ha
  unfold finalStop
  rw [Act.go_bind, Act.go_attempt]
  rcases hs : (stopAll setup).go m with ⟨_ | _ | ⟨⟩, m'⟩
  · rw [hs] at hr
    cases hr
  · rfl
  · rfl

end NoAbort

/-! ## info の行を書かない操作 -/

/-- `m'` は `m` と同じ名前の線を持ち、`m` の記録の後ろに info でない行だけを足した状態。 -/
structure Machine.Quiet (m m' : Machine) : Prop where
  name : m'.name = m.name
  log : ∃ l, m'.log = m.log ++ l ∧ ∀ line ∈ l, line.level ≠ .info

theorem Machine.Quiet.of_eq {m m' : Machine} (hn : m'.name = m.name) (hl : m'.log = m.log) :
    m.Quiet m' :=
  ⟨hn, [], by rw [hl, List.append_nil], fun _ h => nomatch h⟩

theorem Machine.Quiet.refl (m : Machine) : m.Quiet m := .of_eq rfl rfl

theorem Machine.Quiet.push {m m' : Machine} {line : Log.Line} (hn : m'.name = m.name)
    (hl : m'.log = m.log ++ [line]) (h : line.level ≠ .info) : m.Quiet m' :=
  ⟨hn, [line], hl, fun _ hx => by rw [List.mem_singleton.1 hx]; exact h⟩

theorem Machine.Quiet.trans {m₁ m₂ m₃ : Machine} (h₁ : m₁.Quiet m₂) (h₂ : m₂.Quiet m₃) :
    m₁.Quiet m₃ := by
  obtain ⟨n₁, l₁, e₁, q₁⟩ := h₁
  obtain ⟨n₂, l₂, e₂, q₂⟩ := h₂
  refine ⟨n₂.trans n₁, l₁ ++ l₂, by rw [e₂, e₁, List.append_assoc], fun line hl => ?_⟩
  rcases List.mem_append.1 hl with hl | hl
  · exact q₁ line hl
  · exact q₂ line hl

/-- どの状態から走らせても、線の名前を変えず、記録には info でない行だけを足す操作。 -/
def Act.Quiet {α : Type} (x : Act α) : Prop := ∀ m : Machine, m.Quiet (x.go m).2

/-- どの状態から走らせても、線の名前を変えず、記録には info でない行だけを足す、失敗しうる操作。 -/
def Op.Quiet {α : Type} (x : Op α) : Prop := ∀ m : Machine, m.Quiet (x.go m).2

section Combinators

variable {α β : Type}

theorem Act.Quiet.bind {x : Act α} {f : α → Act β} (hx : x.Quiet) (hf : ∀ a, (f a).Quiet) :
    (x >>= f).Quiet := by
  intro m
  have h := hx m
  rw [Act.go_bind]
  generalize x.go m = p at h ⊢
  obtain ⟨_ | a, m'⟩ := p
  · exact h
  · exact h.trans (hf a m')

theorem Op.Quiet.bind {x : Op α} {f : α → Op β} (hx : x.Quiet) (hf : ∀ a, (f a).Quiet) :
    (x >>= f).Quiet := by
  intro m
  have h := hx m
  rw [Op.go_bind]
  generalize x.go m = p at h ⊢
  obtain ⟨_ | _ | a, m'⟩ := p
  · exact h
  · exact h
  · exact h.trans (hf a m')

theorem Op.Quiet.liftM {x : Act α} (hx : x.Quiet) : (liftM x : Op α).Quiet := by
  intro m
  have h := hx m
  rw [Op.go_liftM]
  generalize x.go m = p at h ⊢
  obtain ⟨_ | a, m'⟩ := p <;> exact h

theorem Act.Quiet.attempt {x : Op α} (hx : x.Quiet) : (x.attempt : Act _).Quiet :=
  fun m => by rw [Act.go_attempt]; exact hx m

theorem Act.Quiet.pure (a : α) : (pure a : Act α).Quiet := fun m => .refl m

theorem Op.Quiet.pure (a : α) : (pure a : Op α).Quiet := fun m => .refl m

theorem Op.Quiet.throw (e : Error) : (throw e : Op α).Quiet := fun m => .refl m

theorem Act.Quiet.get : (get : Act Machine).Quiet := fun m => .refl m

/-- 線の名前にも記録にも触れない書き換え。 -/
theorem Act.Quiet.modify {f : Machine → Machine} (hn : ∀ m, (f m).name = m.name)
    (hl : ∀ m, (f m).log = m.log) : (modify f : Act PUnit).Quiet :=
  fun m => .of_eq (hn m) (hl m)

/-- 線の名前にも記録にも触れない書き換え。 -/
theorem Op.Quiet.modify {f : Machine → Machine} (hn : ∀ m, (f m).name = m.name)
    (hl : ∀ m, (f m).log = m.log) : (modify f : Op PUnit).Quiet :=
  fun m => .of_eq (hn m) (hl m)

/-- info でない一行の記録。 -/
theorem emit_quiet {level : Log.Level} (h : level ≠ .info) (s : Log.Source) (t : String) :
    (emit level s t).Quiet :=
  fun _ => .push rfl rfl h

/-- 条件が成り立てば info でない一行を記録してから続ける操作。 -/
theorem Act.Quiet.emitIf {c : Prop} [Decidable c] {level : Log.Level} (h : level ≠ .info)
    (s : Log.Source) (t : String) {k : Act β} (hk : k.Quiet) :
    (if c then (emit level s t >>= fun _ => k) else k).Quiet := by
  split
  · exact (emit_quiet h s t).bind fun _ => hk
  · exact hk

end Combinators

/-! ## 止める操作の記録 -/

theorem writePacket_quiet (data : Bytes) : (writePacket data).Quiet := by
  intro m
  rw [writePacket_go]
  split
  · split
    · exact .refl m
    · exact .refl m
    · exact .push rfl rfl (fun h => nomatch h)
  · exact .refl m

theorem readAvailable_quiet : readAvailable.Quiet := by
  intro m
  rw [readAvailable_go]
  split
  · split
    · exact .refl m
    · exact .refl m
    · exact .of_eq rfl rfl
  · exact .refl m

theorem announce_quiet (side : Track) (speed : Int) : (announce side speed).Quiet := by
  unfold announce
  refine .bind ?_ fun p => .bind (.liftM (emit_quiet (by decide) _ _)) fun _ => .pure _
  unfold announce.liftExcept
  split
  · exact .pure _
  · exact .throw _

theorem send_quiet (side : Track) (speed : Int) : (send side speed).Quiet := by
  unfold send
  exact (announce_quiet side speed).bind fun p => writePacket_quiet p.bytes

/-- 受信を読む操作の記録は、捨てた byte の数と読めた電圧（debug）と、読み出しの失敗（warn）。 -/
theorem pollTelemetry_quiet : pollTelemetry.Quiet := by
  unfold pollTelemetry
  refine .bind (.attempt readAvailable_quiet) fun r => ?_
  split
  · refine .bind .get fun m => ?_
    dsimp only
    -- 捨てた byte があればその数を記録し、切り出しを進め、電圧が読めれば記録して覚える
    refine Act.Quiet.emitIf (by decide) _ _ (.bind (.modify ?_ ?_) fun _ => ?_)
    · exact fun _ => rfl
    · exact fun _ => rfl
    split
    · refine (emit_quiet (by decide) _ _).bind fun _ => .modify ?_ ?_
      · exact fun _ => rfl
      · exact fun _ => rfl
    · exact .pure _
  · exact .pure _
  · exact emit_quiet (by decide) _ _

theorem stopTrack_quiet (setup : Setup) (side : Track) : (stopTrack setup side).Quiet := by
  unfold stopTrack
  refine .bind (.attempt ?_) fun r => ?_
  · split
    · exact .throw _
    · exact send_quiet side _
  · split
    · exact .pure _
    · exact (emit_quiet (by decide) _ _).bind fun _ => .pure _

theorem stopAll_quiet (setup : Setup) : (stopAll setup).Quiet := by
  unfold stopAll
  refine .bind (.liftM (stopTrack_quiet setup .left)) fun e₁ => ?_
  refine .bind (.liftM (stopTrack_quiet setup .right)) fun e₂ => ?_
  refine .bind (.liftM pollTelemetry_quiet) fun _ => ?_
  split
  · exact .throw _
  · exact .modify (fun _ => rfl) (fun _ => rfl)

theorem finalStop_quiet (setup : Setup) : (finalStop setup).Quiet := by
  unfold finalStop
  refine .bind (.attempt (stopAll_quiet setup)) fun r => ?_
  split
  · exact .pure _
  · exact emit_quiet (by decide) _ _

/-! ## 後始末 -/

/-- 後始末を `n` 回続けて呼ぶ。 -/
def cleanupTimes (setup : Setup) : Nat → Act Unit
  | 0 => pure ()
  | n + 1 => cleanup setup >>= fun _ => cleanupTimes setup n

section Cleanup

variable (setup : Setup)

/-- 待つことは時計を進めるだけ。 -/
theorem settle_go (m : Machine) :
    (settle setup).go m = (.ok (), { m with clock := m.clock + setup.settleMs * 1000000 }) := rfl

theorem closeLink_ok (m : Machine) : closeLink.go m = (.ok (), (closeLink.go m).2) := by
  rw [closeLink_go]
  split <;> rfl

/-- 線を閉じると、`Core` では線が閉じたことだけが変わる。 -/
theorem closeLink_core (m : Machine) : (closeLink.go m).2.core = { m.core with isOpen := false } := by
  rw [closeLink_go]
  split
  · rfl
  · rename_i h
    rw [Bool.not_eq_true] at h
    show m.core = _
    unfold Machine.core
    rw [h]

/-- 線を閉じたときの記録は、開いていた線を閉じたときの一行だけ。 -/
theorem closeLink_log (m : Machine) :
    (closeLink.go m).2.log =
      m.log ++ (if m.isOpen then [⟨.info, .link, "Closed serial link " ++ m.name⟩] else []) := by
  rw [closeLink_go]
  by_cases h : m.isOpen = true
  · simp only [h, ↓reduceIte]
  · simp only [h, Bool.false_eq_true, ↓reduceIte, List.append_nil]

/-- 後始末を始めると印が立ち、`Core` ではそれだけが変わる。 -/
theorem beginCleanup_core (m : Machine) : (beginCleanup.go m).2.core = { m.core with done := true } := by
  rw [beginCleanup_go]
  split
  · rename_i h
    show m.core = _
    unfold Machine.core
    rw [h]
  · rfl

theorem beginCleanup_of_not_done {m : Machine} (h : m.done = false) :
    (beginCleanup.go m).2 =
      { m with done := true, log := m.log ++ [⟨.info, .controller, "Shutting down motor controller"⟩] } := by
  rw [beginCleanup_go, h, if_neg Bool.false_ne_true]

/-- 両側を止める操作は、線の開閉にも、後始末の印にも、時計にも触れない。 -/
theorem stopAll_keeps_link (m : Machine) :
    ((stopAll setup).go m).2.isOpen = m.isOpen ∧ ((stopAll setup).go m).2.done = m.done ∧
      ((stopAll setup).go m).2.clock = m.clock := by
  obtain ⟨wl, wr, -, hs⟩ := stopAll_core setup m
  cases wl <;> cases wr <;>
    exact ⟨congrArg Core.isOpen hs, congrArg Core.done hs, congrArg Core.clock hs⟩

/-- 後始末の停止も、線の開閉にも、後始末の印にも、時計にも触れない。 -/
theorem finalStop_keeps_link (m : Machine) :
    ((finalStop setup).go m).2.isOpen = m.isOpen ∧ ((finalStop setup).go m).2.done = m.done ∧
      ((finalStop setup).go m).2.clock = m.clock := by
  have hc := finalStop_core setup m
  obtain ⟨ho, hd, hk⟩ := stopAll_keeps_link setup m
  exact ⟨(congrArg Core.isOpen hc).trans ho, (congrArg Core.done hc).trans hd,
    (congrArg Core.clock hc).trans hk⟩

/-- 後始末の印が立っていれば、後始末は何もしない：書かず、待たず、記録もしない。 -/
theorem cleanup_of_done {m : Machine} (h : m.done = true) : (cleanup setup).go m = (.ok (), m) := by
  unfold cleanup
  rw [Act.go_bind, beginCleanup_go, if_pos h]
  rfl

/-- 後始末を始めていない制御器では、後始末は印を立てて始めの一行を記録し、止めにいく。
止める操作が中断しなければ、待ってから線を閉じる。 -/
theorem cleanup_go_of_not_done {m : Machine} (h : m.done = false) :
    (cleanup setup).go m =
      match (finalStop setup).go (beginCleanup.go m).2 with
      | (.ok (), m₁) => closeLink.go { m₁ with clock := m₁.clock + setup.settleMs * 1000000 }
      | (.error a, m₁) => (.error a, m₁) := by
  have hb := beginCleanup_go m
  rw [h, if_neg Bool.false_ne_true] at hb
  unfold cleanup
  rw [Act.go_bind, hb]
  dsimp only
  rw [if_pos rfl, Act.go_bind]
  rcases (finalStop setup).go _ with ⟨_ | ⟨⟨⟩⟩, m₁⟩
  · rfl
  · dsimp only
    rw [Act.go_bind, settle_go]

/-- 書き込みが中断しても、後始末の後は印が立っている。 -/
theorem cleanup_done (m : Machine) : ((cleanup setup).go m).2.done = true := by
  cases hd : m.done
  · rw [cleanup_go_of_not_done setup hd]
    -- 印を立ててから止めにいき、止める操作も、待つことも、閉じることも印に触れない
    have hb : (beginCleanup.go m).2.done = true := congrArg Core.done (beginCleanup_core m)
    have hk := (finalStop_keeps_link setup (beginCleanup.go m).2).2.1
    rcases hf : (finalStop setup).go (beginCleanup.go m).2 with ⟨_ | ⟨⟨⟩⟩, m₁⟩ <;> rw [hf] at hk
    · exact hk.trans hb
    · exact (congrArg Core.done (closeLink_core _)).trans (hk.trans hb)
  · rw [cleanup_of_done setup hd]
    exact hd

/-- 後始末を始めていない制御器で、書き込みが中断しなければ、後始末は、始めた状態から止めにいった
状態を、待ってから閉じたもの。 -/
theorem cleanup_go_of_not_aborted {m : Machine} (hd : m.done = false)
    (ha : m.device.abortWrites = false) :
    (cleanup setup).go m =
      closeLink.go { ((finalStop setup).go (beginCleanup.go m).2).2 with
        clock := ((finalStop setup).go (beginCleanup.go m).2).2.clock + setup.settleMs * 1000000 } := by
  have hok := finalStop_ok setup ((congrArg Core.abortWrites (beginCleanup_core m)).trans ha)
  rw [cleanup_go_of_not_done setup hd]
  rcases hf : (finalStop setup).go (beginCleanup.go m).2 with ⟨r, m₁⟩
  rw [hf] at hok
  cases hok
  rfl

/-- 印が立っていれば、後始末を何度呼んでも何もしない。 -/
theorem cleanupTimes_of_done {m : Machine} (h : m.done = true) (n : Nat) :
    (cleanupTimes setup n).go m = (.ok (), m) := by
  induction n with
  | zero => rfl
  | succ n ih =>
    rw [cleanupTimes, Act.go_bind, cleanup_of_done setup h]
    exact ih

/-- 後始末を何度続けて呼んでも、一回呼んだのと同じ。最初の一回で印が立つから。 -/
theorem cleanupTimes_succ (m : Machine) (n : Nat) :
    (cleanupTimes setup (n + 1)).go m = (cleanup setup).go m := by
  have hd := cleanup_done setup m
  rw [cleanupTimes, Act.go_bind]
  rcases h : (cleanup setup).go m with ⟨_ | ⟨⟨⟩⟩, m₁⟩
  · rfl
  · rw [h] at hd
    exact cleanupTimes_of_done setup hd n

/-- info の行を一つも含まない記録からは、info の行は一つも選ばれない。 -/
theorem filter_info_eq_nil {l : List Log.Line} (h : ∀ line ∈ l, line.level ≠ .info) :
    l.filter (·.level == .info) = [] :=
  List.filter_eq_nil_iff.2 fun line hl => by simpa using h line hl

/-- 後始末を始めていない制御器で、書き込みが中断しなければ、後始末は成功し、印を立てて線を閉じ、
時計を待つ時間だけ進める。送るのは書けた側の中立の packet だけで、左、右の順。両側とも書けた
ときだけ、両側のスロットルを 0 にして停止とする。 -/
theorem cleanup_of_not_done {m : Machine} (hd : m.done = false) (ha : m.device.abortWrites = false) :
    ∃ m₂ : Machine, (cleanup setup).go m = (.ok (), m₂) ∧ m₂.done = true ∧ m₂.isOpen = false ∧
      m₂.clock = m.clock + setup.settleMs * 1000000 ∧
      ∃ wl wr : Bool,
        m₂.device.sent = m.device.sent ++
          ((if wl then (neutralPacket setup .left).bytes else []) ++
            (if wr then (neutralPacket setup .right).bytes else [])) ∧
        m₂.motor.throttle = (if wl && wr then PerTrack.both 0.0 else m.motor.throttle) ∧
        m₂.motor.stopped = (wl && wr || m.motor.stopped) := by
  rw [cleanup_go_of_not_aborted setup hd ha]
  obtain ⟨wl, wr, -, hs⟩ := stopAll_core setup (beginCleanup.go m).2
  have hc := (finalStop_core setup (beginCleanup.go m).2).trans hs
  rw [beginCleanup_core] at hc
  generalize ((finalStop setup).go (beginCleanup.go m).2).2 = m₁ at hc ⊢
  refine ⟨_, closeLink_ok _, ?_⟩
  -- 閉じた後の `Core` は、止めにいった後の `Core` に、待った時計と閉じた線を入れたもの
  have h₂ := closeLink_core { m₁ with clock := m₁.clock + setup.settleMs * 1000000 }
  rw [show ({ m₁ with clock := m₁.clock + setup.settleMs * 1000000 } : Machine).core =
    { m₁.core with clock := m₁.core.clock + setup.settleMs * 1000000 } from rfl, hc] at h₂
  cases hw : wl && wr <;> rw [hw] at h₂ <;>
    exact ⟨congrArg Core.done h₂, congrArg Core.isOpen h₂, congrArg Core.clock h₂, wl, wr,
      congrArg Core.sent h₂, by rw [hw]; exact congrArg Core.throttle h₂,
      by rw [hw]; exact congrArg Core.stopped h₂⟩

/-- 後始末を始めていない制御器で、書き込みが中断しなければ、後始末が info の重さで書くのは、
始めの一行と、線が開いていたときだけ線を閉じた一行。止める操作の記録はどれも info でない。 -/
theorem cleanup_info_lines {m : Machine} (hd : m.done = false) (ha : m.device.abortWrites = false) :
    (((cleanup setup).go m).2.log.drop m.log.length).filter (·.level == .info) =
      ⟨.info, .controller, "Shutting down motor controller"⟩ ::
        (if m.isOpen then [⟨.info, .link, "Closed serial link " ++ m.name⟩] else []) := by
  rw [cleanup_go_of_not_aborted setup hd ha, closeLink_log]
  obtain ⟨hn, l, hl, hquiet⟩ := finalStop_quiet setup (beginCleanup.go m).2
  have ho := (finalStop_keeps_link setup (beginCleanup.go m).2).1
  generalize ((finalStop setup).go (beginCleanup.go m).2).2 = m₁ at hn hl ho ⊢
  -- 始めた状態の記録は始めの一行を足したもので、線の名前も開閉も始める前のまま
  rw [beginCleanup_of_not_done hd] at hn hl ho
  dsimp only at hn hl ho ⊢
  rw [hl, ho, hn, List.append_assoc, List.append_assoc, List.drop_left, List.singleton_append,
    List.filter_cons_of_pos rfl, List.filter_append, filter_info_eq_nil hquiet, List.nil_append]
  cases m.isOpen <;> rfl

/-- 始動に失敗した制御器は、後始末を済ませたと印をつけている。 -/
theorem start_failed_done {m : Machine} {e : Error} (h : ((start setup).go m).1 = .ok (.error e)) :
    ((start setup).go m).2.done = true := by
  unfold start at h ⊢
  rw [Op.go_bind, Op.go_liftM, Act.go_attempt] at h ⊢
  rcases hs : (stopAll setup).go m with ⟨_ | _ | ⟨⟩, m'⟩ <;> rw [hs] at h
  · cases h
  · rfl
  · cases h

end Cleanup

/-! ## 後始末を済ませた制御器 -/

/-- 後始末を済ませた：後始末の印が立ち、線は閉じている。 -/
structure Machine.Shut (m : Machine) : Prop where
  done : m.done = true
  closed : m.isOpen = false

theorem Machine.Shut.of_core {m m' : Machine} (h : m.Shut) (hc : m'.core = m.core) : m'.Shut :=
  ⟨(congrArg Core.done hc).trans h.done, (congrArg Core.isOpen hc).trans h.closed⟩

theorem Machine.Untouched.core {m m' : Machine} (h : m.Untouched m') : m'.core = m.core := by
  rw [h]
  rfl

/-- 後始末を済ませた制御器では、どの区間も記録のほかは何も変えない。 -/
theorem Section.run_untouched_of_shut (setup : Setup) {m : Machine} (h : m.Shut) (s : Section) :
    m.Untouched (s.run setup m) := by
  cases s with
  | setEsc side t =>
    -- 閉じた線への指令は、NaN でもそうでなくても誤りを返す
    have hfail : succeeded ((Controller.setEsc setup side t).go m).1 = false := by
      obtain ⟨e, he⟩ := (setEsc_error_iff setup side t m).2 (.inr (.inl h.closed))
      rw [he]
      rfl
    exact setEsc_failed_untouched setup side t m hfail
  | stop =>
    obtain ⟨m', hs, hu⟩ := stopAll_of_closed setup h.closed
    show m.Untouched ((stopAll setup).go m).2
    rw [hs]
    exact hu
  | stopIfStale deadline now => exact stopIfStale_of_closed setup deadline now h.closed
  | refresh =>
    show m.Untouched (refreshTelemetry.go m).2
    rw [refreshTelemetry_of_closed h.closed]
    exact .refl m
  | beginCleanup =>
    show m.Untouched (Controller.beginCleanup.go m).2
    rw [beginCleanup_go, if_pos h.done]
    exact .refl m
  | finalStop =>
    obtain ⟨m', hs, hu⟩ := stopAll_of_closed setup h.closed
    show m.Untouched ((Controller.finalStop setup).go m).2
    unfold Controller.finalStop
    rw [Act.go_bind, Act.go_attempt, hs]
    exact hu.trans rfl
  | skipFinalStop => exact rfl
  | closeLink =>
    show m.Untouched (Controller.closeLink.go m).2
    rw [closeLink_go, h.closed, if_neg Bool.false_ne_true]
    exact .refl m

end TankDrive.Controller

namespace TankDrive.World

open Controller

variable {setup : Setup}

/-- 後始末を済ませた制御器は、どの一歩の後もそのまま。区間も見回りも閉じた線では記録のほかを
変えず、外の出来事は印にも線にも触れない。 -/
theorem step_shut (x : World) (e : Event) (h : x.machine.Shut) : (x.step setup e).machine.Shut := by
  cases e with
  | locked s => exact h.of_core (s.run_untouched_of_shut setup h).core
  | tick now =>
    exact h.of_core ((step_tick_core x now).trans
      (stopIfStale_of_closed setup (x.watchdog.deadlineMs * 1000000) now h.closed).core)
  | outside e => cases e <;> exact ⟨h.done, h.closed⟩

/-- 後始末を済ませた制御器は、どう走らせてもそのまま。 -/
theorem run_shut (x : World) (es : List Event) (h : x.machine.Shut) :
    (x.run setup es).machine.Shut := by
  induction es generalizing x with
  | nil => exact h
  | cons e es ih => exact ih (x.step setup e) (x.step_shut e h)

end TankDrive.World

namespace TankDrive.Controller

/-! ## 主な定理 -/

/-- 後始末は一度だけ効く。

* 何度続けて呼んでも一回呼んだのと同じ。印が立っていれば何もしない：書かず、待たず、何も
  変えない。
* 印が立っていない制御器で、書き込みが中断しなければ、最初の後始末は成功し、印を立てて線を閉じ、
  時計を待つ時間だけ進める。送るのは書けた側の中立の packet だけで左、右の順、両側とも書けた
  ときだけ両側のスロットルを 0 にして停止とする。info の重さで書くのは、始めの一行と、線が
  開いていたときだけ線を閉じた一行。
* 後始末を済ませた制御器は、どう走らせてもそのまま。その後の後始末は何もせず、NaN でない指令と
  停止は `closed` で断られて記録のほかは何も変えず、受信を読む操作は覚えている電圧を返して何も
  変えない。
* 始動に失敗した制御器は印が立っていて、手放すときの後始末は何もしない。 -/
theorem cleanup_takes_effect_once (setup : Setup) :
    (∀ (m : Machine) (n : Nat), (cleanupTimes setup (n + 1)).go m = (cleanup setup).go m) ∧
    (∀ m : Machine, m.done = true → (cleanup setup).go m = (.ok (), m)) ∧
    (∀ m : Machine, m.done = false → m.device.abortWrites = false → ∃ m₁ : Machine,
      (cleanup setup).go m = (.ok (), m₁) ∧ m₁.Shut ∧
      m₁.clock = m.clock + setup.settleMs * 1000000 ∧
      (∃ wl wr : Bool,
        m₁.device.sent = m.device.sent ++
          ((if wl then (neutralPacket setup .left).bytes else []) ++
            (if wr then (neutralPacket setup .right).bytes else [])) ∧
        m₁.motor.throttle = (if wl && wr then PerTrack.both 0.0 else m.motor.throttle) ∧
        m₁.motor.stopped = (wl && wr || m.motor.stopped)) ∧
      (m₁.log.drop m.log.length).filter (·.level == .info) =
        ⟨.info, .controller, "Shutting down motor controller"⟩ ::
          (if m.isOpen then [⟨.info, .link, "Closed serial link " ++ m.name⟩] else [])) ∧
    (∀ (x : World) (es : List Event), x.machine.Shut →
      let m := (x.run setup es).machine
      m.Shut ∧ (cleanup setup).go m = (.ok (), m) ∧
      (∀ (side : Track) (t : Float), t.isNaN = false → ∃ m',
        (setEsc setup side t).go m = (.ok (.error (.link .closed)), m') ∧ m.Untouched m') ∧
      (∃ m', (stopAll setup).go m = (.ok (.error (.link .closed)), m') ∧ m.Untouched m') ∧
      refreshTelemetry.go m = (.ok m.motor.voltage, m)) ∧
    (∀ (m : Machine) (e : Error), ((start setup).go m).1 = .ok (.error e) →
      ((start setup).go m).2.done = true ∧
      (cleanup setup).go ((start setup).go m).2 = (.ok (), ((start setup).go m).2)) := by
  refine ⟨cleanupTimes_succ setup, fun m h => cleanup_of_done setup h, fun m hd ha => ?_,
    fun x es hx => ?_, fun m e h => ?_⟩
  · obtain ⟨m₁, hgo, hdone, hclosed, hclock, hsent⟩ := cleanup_of_not_done setup hd ha
    have hlog := cleanup_info_lines setup hd ha
    rw [hgo] at hlog
    exact ⟨m₁, hgo, ⟨hdone, hclosed⟩, hclock, hsent, hlog⟩
  · -- 済ませた制御器は、走らせても済ませたまま
    have hs : (x.run setup es).machine.Shut := x.run_shut es hx
    exact ⟨hs, cleanup_of_done setup hs.done,
      fun side t ht => setEsc_of_closed setup side ht hs.closed, stopAll_of_closed setup hs.closed,
      refreshTelemetry_of_closed hs.closed⟩
  · have hd := start_failed_done setup h
    exact ⟨hd, cleanup_of_done setup hd⟩

/-- 開いたばかりの制御器を後始末すると、印が立って線が閉じる。その後、受信と見回りと停止を経ても、
指令は `closed` で断られ、記録のほかは何も変えない。 -/
theorem fresh_controller_refuses_after_cleanup :
    let setup := Setup.ofConfig {}
    let es : List Event := [.outside (.receive [0xCD, 0xAB]), .tick 5000000000, .locked .stop]
    ∃ m₁ : Machine, (cleanup setup).go (Machine.fresh "mem" {} 0) = (.ok (), m₁) ∧ m₁.Shut ∧
      ∃ m', (setEsc setup .left 0.5).go (World.run setup ⟨m₁, Watchdog.ofConfig {}⟩ es).machine =
        (.ok (.error (.link .closed)), m') ∧
        (World.run setup ⟨m₁, Watchdog.ofConfig {}⟩ es).machine.Untouched m' := by
  intro setup es
  obtain ⟨m₁, hgo, hshut, -⟩ := (cleanup_takes_effect_once setup).2.2.1 (Machine.fresh "mem" {} 0) rfl rfl
  obtain ⟨-, -, hset, -⟩ := (cleanup_takes_effect_once setup).2.2.2.1 ⟨m₁, Watchdog.ofConfig {}⟩ es hshut
  exact ⟨m₁, hgo, hshut, hset .left 0.5 (by decide)⟩

end TankDrive.Controller
