import TankDrive.Proofs.Controller.Run
import TankDrive.Proofs.Wire.RoundTrip
/-!
# 送った packet と走行の状態

制御器は線と走行の状態を一つの鍵の下に置き、packet を書くことと、それが起こす状態の変化とを
一つの区間にする。別々の呼び出し（指令、停止、古さの確かめ、受信、後始末）の区間は
どの順にも並びうる（`Section`）。区間の合間には、基板からの受信、書き込みや読み出しの故障の
切り替え、時間の経過が起こりうる（`Outside`）。これらは鍵の外で起こるので、両側を止める区間の
左右の書き込みの間にも割り込む（`StopSection`）。線を開いた直後に始動が成功した制御器から、
これらをどう重ねても（`Reachable`）、次のことが保たれる（`Consistent`）。

1. 線に書いた byte は、7 byte の指令の packet を並べたもの。
2. 停止の印は、両側のスロットルが `== 0.0` であることにちょうど同じで、どちらのスロットルも
   NaN でない `[-1, 1]` の値。
3. スロットルが `== 0.0` の側では、その側に宛てた最後の packet が中立の packet。

停止の印は書いた packet ではなくスロットルから決まり、両者は別の道で変わる：`+0.0` と
`-0.0` の指令（逆向きの側では `0.0` が `-0.0` になる）、片側だけ書けた停止、始動、後始末、
何も変えない失敗。3 が保たれるのは、符号つき零がどの範囲でも中立の速度に写る
（`Range.speed_of_beq_zero`）からである。

## 主な定理

* `Consistent.step`：どの区間も `Consistent` を保つ。
* `Consistent.stopSection`：左右の書き込みの間に割り込まれた止める区間も `Consistent` を保つ。
* `reachable_packets_consistent`：到達できるどの状態でも 1〜3 が成り立つ。
-/

namespace TankDrive

@[simp] theorem PerTrack.get_both {α : Type} (a : α) (side : Track) :
    (PerTrack.both a).get side = a := by
  cases side <;> rfl

end TankDrive

namespace TankDrive.Controller

open Wire Throttle

/-! ## 区間と到達できる状態 -/

/-- 制御器の鍵の下で一度に行われる区間と、後始末の印の切り替え。 -/
inductive Section where
  | setEsc (side : Track) (throttle : Float)
  | stop
  | stopIfStale (deadline now : Nat)
  | refresh
  | beginCleanup
  | finalStop
  | skipFinalStop
  | closeLink

/-- 区間を走らせた後の状態。誤りや中断で終わっても、そこまでの変化は残る。 -/
def Section.run (setup : Setup) (m : Machine) : Section → Machine
  | .setEsc side t => ((Controller.setEsc setup side t).go m).2
  | .stop => ((stopAll setup).go m).2
  | .stopIfStale deadline now => ((Controller.stopIfStale setup deadline now).go m).2
  | .refresh => (refreshTelemetry.go m).2
  | .beginCleanup => (Controller.beginCleanup.go m).2
  | .finalStop => ((Controller.finalStop setup).go m).2
  | .skipFinalStop => (Controller.skipFinalStop.go m).2
  | .closeLink => (Controller.closeLink.go m).2

/-- 制御器の外で起こること：基板からの受信、故障の切り替え、時間の経過。 -/
inductive Outside where
  | receive (data : Bytes)
  | failWrites (on : Bool)
  | failReads (on : Bool)
  | abortWrites (on : Bool)
  | wait (ns : Nat)

/-- 外の出来事の後の状態。 -/
def Outside.run (m : Machine) : Outside → Machine
  | .receive data => { m with device := m.device.receive data }
  | .failWrites on => { m with device := { m.device with failWrites := on } }
  | .failReads on => { m with device := { m.device with failReads := on } }
  | .abortWrites on => { m with device := { m.device with abortWrites := on } }
  | .wait ns => { m with clock := m.clock + ns }

/-! ### 止める区間への割り込み

故障の切り替えと受信は制御器の鍵の外で起こるので、鍵を持ったままの区間の途中にも割り込む。
結果を変えうるのは、両側を止める区間の左右の書き込みの間だけである：ほかの区間は装置を
書き込みと受信で一度ずつしか使わず、書き込みは受信の切り替えを、受信は書き込みの切り替えを
見ないので、途中の割り込みは区間の前か後に起きたのと同じになる。左右の書き込みの間に
書き込みの故障が切り替わると、左は書けて右は書けない停止（またはその逆）が起こる。 -/

/-- 両側を止める操作で、左の書き込みの後、右の書き込みの前に外の出来事 `env` が起きたもの。 -/
def stopAllAmid (setup : Setup) (env : List Outside) : Op Unit := do
  let e1 ← stopTrack setup .left
  modify fun m => env.foldl Outside.run m
  let e2 ← stopTrack setup .right
  pollTelemetry
  match e1 <|> e2 with
  | some e => throw e
  | none =>
    modify fun m => { m with motor := { m.motor with throttle := PerTrack.both 0.0, stopped := true } }

/-- 古さの確かめで、止める途中に `env` が割り込んだもの。 -/
def stopIfStaleAmid (setup : Setup) (env : List Outside) (deadline now : Nat) : Op Staleness := do
  let m ← get
  let elapsed := now - m.motor.lastCommand
  if elapsed ≤ deadline then pure .fresh
  else if m.motor.stopped then pure .idle
  else
    stopAllAmid setup env
    pure (.tripped elapsed)

/-- 後始末の停止で、止める途中に `env` が割り込んだもの。 -/
def finalStopAmid (setup : Setup) (env : List Outside) : Act Unit := do
  match ← (stopAllAmid setup env).attempt with
  | .ok () => pure ()
  | .error e => emit .warn .controller ("Failed to stop motors during cleanup: " ++ e.message)

/-- 両側を止める書き込みを含む区間。 -/
inductive StopSection where
  | stop
  | stopIfStale (deadline now : Nat)
  | finalStop

/-- 割り込みのない同じ区間。 -/
def StopSection.plain : StopSection → Section
  | .stop => .stop
  | .stopIfStale deadline now => .stopIfStale deadline now
  | .finalStop => .finalStop

/-- 左右の書き込みの間に `env` が割り込んだ区間を走らせた後の状態。 -/
def StopSection.run (setup : Setup) (env : List Outside) (m : Machine) : StopSection → Machine
  | .stop => ((stopAllAmid setup env).go m).2
  | .stopIfStale deadline now => ((stopIfStaleAmid setup env deadline now).go m).2
  | .finalStop => ((finalStopAmid setup env).go m).2

/-- 何も割り込まなければ、両側を止める操作そのもの。 -/
theorem stopAllAmid_nil (setup : Setup) : stopAllAmid setup [] = stopAll setup := rfl

/-- 何も割り込まなければ、割り込みのない区間と同じ状態に至る。 -/
theorem StopSection.run_nil (setup : Setup) (m : Machine) (s : StopSection) :
    s.run setup [] m = s.plain.run setup m := by
  cases s <;> rfl

/-- 何も書かれていない線を開いた直後の制御器が始動に成功し、そこから区間と外の出来事を
どの順に重ねても（両側を止める区間の左右の書き込みの間に割り込むものも含めて）至る状態。 -/
inductive Reachable (setup : Setup) : Machine → Prop
  | start {name : String} {device : Device} {clock : Nat} (fresh : device.sent = [])
      (ok : succeeded ((start setup).go (Machine.fresh name device clock)).1 = true) :
      Reachable setup ((start setup).go (Machine.fresh name device clock)).2
  | locked {m : Machine} (s : Section) : Reachable setup m → Reachable setup (s.run setup m)
  | outside {m : Machine} (e : Outside) : Reachable setup m → Reachable setup (e.run m)
  | amid {m : Machine} (s : StopSection) (env : List Outside) :
      Reachable setup m → Reachable setup (s.run setup env m)

/-! ## 送った packet の列 -/

/-- `ps` のうち、`side` に宛てた最後の packet。 -/
def lastTo (side : Track) (ps : List Packet) : Option Packet :=
  (ps.filter (·.slave == side.slave)).getLast?

theorem lastTo_append_self (side : Track) (ps : List Packet) (speed : Int) :
    lastTo side (ps ++ [commandPacket side speed]) = some (commandPacket side speed) := by
  simp [lastTo, commandPacket]

theorem lastTo_append_other {side other : Track} (h : side ≠ other) (ps : List Packet)
    (speed : Int) : lastTo other (ps ++ [commandPacket side speed]) = lastTo other ps := by
  cases side <;> cases other <;> first | exact absurd rfl h | simp [lastTo, commandPacket, Track.slave]

/-- 送った byte は packet の列 `ps` を並べたもので、どれも指令の packet。 -/
structure Framed (ps : List Packet) (sent : Bytes) : Prop where
  sent_eq : sent = (ps.map Packet.bytes).flatten
  commands : ∀ p ∈ ps, ∃ side speed, p = commandPacket side speed

theorem Framed.nil : Framed [] [] := ⟨rfl, by simp⟩

theorem Framed.push {ps : List Packet} {sent : Bytes} (h : Framed ps sent) (side : Track)
    (speed : Int) :
    Framed (ps ++ [commandPacket side speed]) (sent ++ (commandPacket side speed).bytes) where
  sent_eq := by simp [h.sent_eq]
  commands p hp := by
    rcases List.mem_append.1 hp with hp | hp
    · exact h.commands p hp
    · exact ⟨side, speed, List.mem_singleton.1 hp⟩

/-- 送った packet の列 `ps` と `Core` について守られる性質。 -/
structure Consistent (setup : Setup) (ps : List Packet) (c : Core) : Prop where
  framed : Framed ps c.sent
  stopped_eq : c.stopped = (c.throttle.left == 0.0 && c.throttle.right == 0.0)
  inUnit : ∀ side, InUnit (c.throttle.get side)
  neutral : ∀ side, (c.throttle.get side == 0.0) = true → lastTo side ps = some (neutralPacket setup side)

/-- 送った byte もスロットルも停止の印も変えない変化は、`Consistent` を保つ。 -/
theorem Consistent.congr {setup : Setup} {ps : List Packet} {c c' : Core}
    (h : Consistent setup ps c) (hs : c'.sent = c.sent) (ht : c'.throttle = c.throttle)
    (hst : c'.stopped = c.stopped) : Consistent setup ps c' where
  framed := hs ▸ h.framed
  stopped_eq := by rw [hst, ht]; exact h.stopped_eq
  inUnit := ht ▸ h.inUnit
  neutral := ht ▸ h.neutral

/-! ## 一つの変化が保つこと -/

section Moves

variable {setup : Setup} {ps : List Packet} {c : Core}

/-- 片側に中立の packet を書き足しても、スロットルは変わらず、`Consistent` は保たれる。 -/
theorem Consistent.neutralWrite (h : Consistent setup ps c) (side : Track) :
    Consistent setup (ps ++ [neutralPacket setup side])
      (c.append (neutralPacket setup side).bytes) where
  framed := h.framed.push side _
  stopped_eq := h.stopped_eq
  inUnit := h.inUnit
  neutral u hu := by
    rcases Decidable.em (side = u) with rfl | hne
    · exact lastTo_append_self side ps _
    · unfold neutralPacket
      rw [lastTo_append_other hne]
      exact h.neutral u hu

/-- 送った packet の列が左、右の中立の packet で終わっていれば、止めた状態は `Consistent`。
前の状態のスロットルによらない。 -/
theorem Consistent.haltAfter
    (h : Framed (ps ++ [neutralPacket setup .left] ++ [neutralPacket setup .right]) c.sent) :
    Consistent setup (ps ++ [neutralPacket setup .left] ++ [neutralPacket setup .right]) c.halt where
  framed := h
  stopped_eq := by simp only [Core.halt]; decide
  inUnit side := by simpa [Core.halt] using inUnit_zero
  neutral side _ := by
    cases side with
    | left =>
      unfold neutralPacket
      rw [lastTo_append_other (by decide), lastTo_append_self]
    | right => exact lastTo_append_self .right _ _

/-- 両側に中立の packet を書いてから止めると、どちらの側も最後の packet が中立になる。 -/
theorem Consistent.halt (h : Framed ps c.sent) :
    Consistent setup (ps ++ [neutralPacket setup .left] ++ [neutralPacket setup .right])
      ((c.append ((neutralPacket setup .left).bytes ++
        (neutralPacket setup .right).bytes)).halt) := by
  have := (h.push .left (setup.sides.get .left).range.restSpeed).push .right
    (setup.sides.get .right).range.restSpeed
  exact Consistent.haltAfter (by simpa [Core.append, neutralPacket, List.append_assoc] using this)

/-- 指令が通ると、その側のスロットルは寄せた値になり、`== 0.0` なら送った packet は中立の
packet。もう一方の側は変わらない。 -/
theorem Consistent.command (h : Consistent setup ps c) {side : Track} {throttle : Float}
    {speed : Int} (hn : throttle.isNaN = false)
    (hs : (setup.sides.get side).range.speed
      (if (setup.sides.get side).inverted then -clampUnit throttle else clampUnit throttle) =
        .ok speed) :
    Consistent setup (ps ++ [commandPacket side speed])
      ((c.append (commandPacket side speed).bytes).command side (clampUnit throttle)) where
  framed := h.framed.push side speed
  stopped_eq := rfl
  inUnit u := by
    rcases Decidable.em (side = u) with rfl | hne
    · simpa [Core.command] using clampUnit_inUnit hn
    · simpa [Core.command, Core.append, PerTrack.get_set_other _ hne] using h.inUnit u
  neutral u hu := by
    rcases Decidable.em (side = u) with rfl | hne
    · -- `== 0.0` のスロットルは、符号を変えても変えなくても中立の速度に写る
      simp only [Core.command, PerTrack.get_set_self] at hu
      have hrest := (setup.sides.get side).range.speed_of_beq_zero hu
        (setup.sides.get side).inverted
      rw [hs, Except.ok.injEq] at hrest
      rw [lastTo_append_self, hrest]
      rfl
    · simp only [Core.command, Core.append, PerTrack.get_set_other _ hne] at hu
      rw [lastTo_append_other hne]
      exact h.neutral u hu

end Moves

/-! ## 一つの区間が保つこと -/

section Steps

variable {setup : Setup} {ps : List Packet} {m : Machine}

/-- 外の出来事は、送った byte もスロットルも停止の印も変えない。 -/
theorem Consistent.outside (h : Consistent setup ps m.core) (e : Outside) :
    Consistent setup ps (e.run m).core := by
  cases e <;> exact h.congr rfl rfl rfl

/-- 外の出来事をいくつ重ねても、`Consistent` は保たれる。 -/
theorem Consistent.outsides (h : Consistent setup ps m.core) (env : List Outside) :
    Consistent setup ps (env.foldl Outside.run m).core := by
  induction env generalizing m with
  | nil => exact h
  | cons e env ih => exact ih (h.outside e)

/-- 片側を止める試みの後は、中立の packet を書けたときだけそれが列に加わって `Consistent`。 -/
theorem Consistent.stopTrack (h : Consistent setup ps m.core) (side : Track) :
    Consistent setup
      (ps ++ if wrote ((stopTrack setup side).go m).1 then [neutralPacket setup side] else [])
      ((stopTrack setup side).go m).2.core := by
  rw [stopTrack_core]
  split
  · exact h.neutralWrite side
  · simpa using h

/-- 左右の書き込みの間に外の出来事が割り込んでも、両側を止める操作は `Consistent` を保つ。
書けた中立の packet だけが列に加わり、両方書けたときだけスロットルが 0 になる。 -/
theorem Consistent.stopAllAmid (h : Consistent setup ps m.core) (env : List Outside) :
    ∃ qs, Consistent setup (ps ++ qs) ((stopAllAmid setup env).go m).2.core := by
  have c₁ := h.stopTrack .left
  unfold Controller.stopAllAmid
  rw [Op.go_bind, Op.go_liftM]
  rcases h₁ : (Controller.stopTrack setup .left).go m with ⟨r₁, m₁⟩
  rw [h₁] at c₁
  -- 左で中断すれば、右は試さない
  rcases r₁ with a | e₁
  · exact ⟨_, c₁⟩
  -- 右を試す前に外の出来事が起こる
  have c₂ := (c₁.outsides env).stopTrack .right
  dsimp only at c₂ ⊢
  rw [Op.go_bind, Op.go_modify]
  dsimp only
  rw [Op.go_bind, Op.go_liftM]
  rcases h₂ : (Controller.stopTrack setup .right).go (env.foldl Outside.run m₁) with ⟨r₂, m₂⟩
  rw [h₂] at c₂
  rcases r₂ with a | e₂
  · exact ⟨_, by simpa only [List.append_assoc] using c₂⟩
  -- 両側を試した後は、受信を読んでから最初の誤りを返す
  obtain ⟨m₃, h₃, hp⟩ := pollTelemetry_lift_core m₂
  rw [← hp] at c₂
  dsimp only
  rw [Op.go_bind, h₃]
  rcases e₁ with _ | e₁ <;> rcases e₂ with _ | e₂
  · -- 両側とも書けたので止める
    refine ⟨[neutralPacket setup .left, neutralPacket setup .right], ?_⟩
    simpa [Op.go_modify, core_halt] using Consistent.haltAfter (by simpa using c₂.framed)
  -- どちらかが書けなければ、最初の誤りを返して止めない
  all_goals exact ⟨_, by simpa only [Option.orElse_eq_orElse, Option.orElse_some,
    Option.orElse_none, Op.go_throw, List.append_assoc] using c₂⟩

/-- 割り込まれた古さの確かめは、状態を変えないか、割り込まれた停止と同じだけ変える。 -/
theorem stopIfStaleAmid_state (setup : Setup) (env : List Outside) (deadline now : Nat)
    (m : Machine) :
    ((stopIfStaleAmid setup env deadline now).go m).2 = m ∨
      ((stopIfStaleAmid setup env deadline now).go m).2 = ((stopAllAmid setup env).go m).2 := by
  simp only [stopIfStaleAmid, Op.go_bind, Op.go_get]
  split
  · exact .inl rfl
  · split
    · exact .inl rfl
    · right
      rw [Op.go_bind]
      rcases (stopAllAmid setup env).go m with ⟨_ | _ | _, m'⟩ <;> rfl

theorem finalStopAmid_core (setup : Setup) (env : List Outside) (m : Machine) :
    ((finalStopAmid setup env).go m).2.core = ((stopAllAmid setup env).go m).2.core := by
  simp only [finalStopAmid, Act.go_bind, Act.go_attempt]
  rcases (stopAllAmid setup env).go m with ⟨_ | _ | _, m'⟩ <;> rfl

/-- 左右の書き込みの間に割り込まれても、止める区間はどれも `Consistent` を保つ。 -/
theorem Consistent.stopSection (h : Consistent setup ps m.core) (s : StopSection)
    (env : List Outside) : ∃ qs, Consistent setup (ps ++ qs) (s.run setup env m).core := by
  cases s with
  | stop => exact h.stopAllAmid env
  | stopIfStale deadline now =>
    rcases stopIfStaleAmid_state setup env deadline now m with hs | hs
    · exact ⟨[], by simpa [StopSection.run, hs] using h⟩
    · simpa [StopSection.run, hs] using h.stopAllAmid env
  | finalStop => simpa [StopSection.run, finalStopAmid_core] using h.stopAllAmid env

/-- どの区間も `Consistent` を保つ。送った packet の列は後ろに伸びるだけ。 -/
theorem Consistent.step (h : Consistent setup ps m.core) (s : Section) :
    ∃ qs, Consistent setup (ps ++ qs) (s.run setup m).core := by
  cases s with
  | setEsc side t =>
    rcases setEsc_core setup side t m with ⟨-, hn, speed, hs, hc⟩ | ⟨-, hc⟩
    · exact ⟨_, hc ▸ h.command hn hs⟩
    · exact ⟨[], by simpa [Section.run, hc] using h⟩
  -- 止める区間は、何も割り込まない場合（`StopSection.run_nil`）
  | stop => simpa only [StopSection.run_nil, StopSection.plain] using h.stopSection .stop []
  | stopIfStale deadline now =>
    simpa only [StopSection.run_nil, StopSection.plain] using
      h.stopSection (.stopIfStale deadline now) []
  | refresh =>
    obtain ⟨m', hgo, hc⟩ := refreshTelemetry_core m
    exact ⟨[], by simpa [Section.run, hgo, hc] using h⟩
  | beginCleanup =>
    refine ⟨[], ?_⟩
    rw [List.append_nil]
    refine h.congr ?_ ?_ ?_ <;> simp only [Section.run, beginCleanup_go] <;> split <;> rfl
  | finalStop => simpa only [StopSection.run_nil, StopSection.plain] using h.stopSection .finalStop []
  | skipFinalStop => exact ⟨[], by simpa [Section.run, skipFinalStop_core] using h⟩
  | closeLink =>
    refine ⟨[], ?_⟩
    rw [List.append_nil]
    refine h.congr ?_ ?_ ?_ <;> simp only [Section.run, closeLink_go] <;> split <;> rfl

/-- 始動が成功した直後は、左右の中立の packet だけを送って止まっている。 -/
theorem Consistent.start {name : String} {device : Device} {clock : Nat}
    (fresh : device.sent = [])
    (ok : succeeded ((start setup).go (Machine.fresh name device clock)).1 = true) :
    Consistent setup [neutralPacket setup .left, neutralPacket setup .right]
      ((start setup).go (Machine.fresh name device clock)).2.core := by
  have hframed : Framed [] (Machine.fresh name device clock).core.sent := by
    rw [show (Machine.fresh name device clock).core.sent = [] from fresh]
    exact Framed.nil
  rw [start_core setup _ ok]
  simpa using (Consistent.halt hframed : Consistent setup _ _)

/-- 到達できる状態には、送った byte を並べた packet の列で `Consistent` なものがある。 -/
theorem Reachable.consistent (h : Reachable setup m) : ∃ ps, Consistent setup ps m.core := by
  induction h with
  | start fresh ok => exact ⟨_, Consistent.start fresh ok⟩
  | locked s _ ih =>
    obtain ⟨ps, hps⟩ := ih
    obtain ⟨qs, hqs⟩ := hps.step s
    exact ⟨_, hqs⟩
  | outside e _ ih =>
    obtain ⟨ps, hps⟩ := ih
    exact ⟨ps, hps.outside e⟩
  | amid s env _ ih =>
    obtain ⟨ps, hps⟩ := ih
    obtain ⟨qs, hqs⟩ := hps.stopSection s env
    exact ⟨_, hqs⟩

end Steps

/-! ## 到達できる状態 -/

theorem saturate_saturate (speed : Int) : saturate (saturate speed) = saturate speed := by
  simp only [saturate, speedLimit]
  omega

/-- 指令の packet は、slave 0 か 1 と `±1000` の速度から作った packet。 -/
theorem commandPacket_encoded (side : Track) (speed : Int) :
    ∃ (s : UInt8) (v : Int), (s = 0 ∨ s = 1) ∧ -1000 ≤ v ∧ v ≤ 1000 ∧
      Packet.encode s v driveState = .ok (commandPacket side speed) := by
  have hb := saturate_bounds speed
  simp only [speedLimit] at hb
  refine ⟨side.slave, saturate speed, by cases side <;> decide, hb.1, hb.2, ?_⟩
  rw [encode_commandPacket, commandPacket, commandPacket, saturate_saturate]

/-- 到達できるどの状態でも、次の三つが成り立つ。
1. 線に書いた byte は 7 byte の packet を並べたもので、どれも slave 0 か 1、速度 `±1000` で
   作った packet。
2. 停止の印は両側のスロットルが `== 0.0` であることに等しく、どちらのスロットルも NaN でない
   `[-1, 1]` の値。
3. スロットルが `== 0.0` の側では、その slave に宛てた最後の packet が、その側の範囲で `0.0` を
   写した速度の packet。 -/
theorem reachable_packets_consistent {setup : Setup} {m : Machine} (h : Reachable setup m) :
    (∃ ps : List Packet, m.device.sent = (ps.map Packet.bytes).flatten ∧
      (∀ p ∈ ps, p.bytes.length = 7 ∧ ∃ (s : UInt8) (v : Int), (s = 0 ∨ s = 1) ∧
        -1000 ≤ v ∧ v ≤ 1000 ∧ Packet.encode s v driveState = .ok p) ∧
      ∀ side, (m.motor.throttle.get side == 0.0) = true →
        ∃ v p, (setup.sides.get side).range.speed 0.0 = .ok v ∧
          Packet.encode side.slave v driveState = .ok p ∧ lastTo side ps = some p) ∧
    m.motor.stopped = (m.motor.throttle.left == 0.0 && m.motor.throttle.right == 0.0) ∧
    ∀ side, InUnit (m.motor.throttle.get side) := by
  obtain ⟨ps, hc⟩ := h.consistent
  refine ⟨⟨ps, hc.framed.sent_eq, ?_, ?_⟩, hc.stopped_eq, hc.inUnit⟩
  · intro p hp
    obtain ⟨side, speed, rfl⟩ := hc.framed.commands p hp
    exact ⟨Packet.length_bytes _, commandPacket_encoded side speed⟩
  · intro side hz
    exact ⟨_, _, Range.speed_rest _, encode_commandPacket _ _, hc.neutral side hz⟩

/-- 右を逆向きにした設定で、何も書かれていない線を開いて始動し、左に `0.5`、右に `-0.0` を
指令してから止めるが、左を書いた直後に書き込みが壊れる。始動の直後もその後も到達でき、三つの
性質を持つ。止める操作は左の中立の packet だけを書いて失敗し、スロットルは変わらない。
逆向きの右に残った `-0.0` は `== 0.0` なので、右に宛てた最後の packet は中立の packet。 -/
theorem start_and_partial_stop_packets_consistent :
    let setup := Setup.ofConfig { right := { inverted := true } }
    let m₀ := ((start setup).go (Machine.fresh "mem" {} 0)).2
    let m₂ := (Section.setEsc .right (-0.0)).run setup ((Section.setEsc .left 0.5).run setup m₀)
    let m := StopSection.stop.run setup [.failWrites true] m₂
    let Holds := fun m : Machine =>
      (∃ ps : List Packet, m.device.sent = (ps.map Packet.bytes).flatten ∧
        (∀ p ∈ ps, p.bytes.length = 7 ∧ ∃ (s : UInt8) (v : Int), (s = 0 ∨ s = 1) ∧
          -1000 ≤ v ∧ v ≤ 1000 ∧ Packet.encode s v driveState = .ok p) ∧
        ∀ side, (m.motor.throttle.get side == 0.0) = true →
          ∃ v p, (setup.sides.get side).range.speed 0.0 = .ok v ∧
            Packet.encode side.slave v driveState = .ok p ∧ lastTo side ps = some p) ∧
      m.motor.stopped = (m.motor.throttle.left == 0.0 && m.motor.throttle.right == 0.0) ∧
      ∀ side, InUnit (m.motor.throttle.get side)
    succeeded ((stopAllAmid setup [.failWrites true]).go m₂).1 = false ∧
    m.device.sent = m₂.device.sent ++ (neutralPacket setup .left).bytes ∧
    m.motor.throttle = m₂.motor.throttle ∧ m.motor.stopped = false ∧
    (m.motor.throttle.right == 0.0) = true ∧ Binary64.signBit m.motor.throttle.right = true ∧
    Reachable setup m₀ ∧ Holds m₀ ∧ Reachable setup m ∧ Holds m := by
  intro setup m₀ m₂ m Holds
  have h₀ : Reachable setup m₀ := .start rfl (by decide)
  have h : Reachable setup m := .amid .stop _ ((h₀.locked _).locked _)
  exact ⟨by decide, by decide +kernel, by decide, by decide, by decide, by decide,
    h₀, reachable_packets_consistent h₀, h, reachable_packets_consistent h⟩

end TankDrive.Controller
