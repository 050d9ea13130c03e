import TankDrive.Proofs.Watchdog.Trace
import TankDrive.Proofs.Telemetry.Stream
/-!
# 受信した byte の行方

制御器のうち受信にかかわる部分（`Inbound`）は、受信の待ち行列、telemetry の切り出し、電圧の
三つである。受信を読む操作（`pollTelemetry`）は、線が開いていて読み出しが失敗しなければ待ち行列を
全部取り出して一つの chunk として切り出しに渡し、読めた電圧を覚える。そうでなければ何も変えない
（`pollTelemetry_feeds`）。ほかの操作はこの部分に触れない。

そこで、受信の側の変化を「届いた byte `incoming` があり、chunk の列 `cs` を順に切り出しに渡した」
という関係 `Feeds` で言う：待ち行列から取り除いた byte はちょうど `cs` をつないだもの、切り出しは
`cs` を順に足した後、電圧は最後に読めた電圧。`Act.Forwards` と `Op.Forwards` は、どの状態から走らせ
ても受信の側をこの形でしか変えない操作で、`>>=` で閉じている（`Act.Forwards.bind`）。

どの区間も、見回りも、この形でしか受信の側を変えない。外から届いた byte は待ち行列の後ろに足される。
そのため、線を開いた直後の制御器をどう走らせても、待ち行列には届いた byte のうち切り出しに渡して
いないものがそのまま残り、切り出しに渡した chunk をつなぐと取り除いた byte に順に等しく、電圧は
最後に読めた電圧（まだなければ 0）である（`received_bytes_fed_in_order`）。
-/

namespace TankDrive.Controller

open Wire Telemetry

/-! ## 受信の側 -/

/-- 制御器のうち受信にかかわる部分。 -/
structure Inbound where
  inbox : Bytes
  telemetry : Extractor
  voltage : Float

/-- 制御器の受信の側。 -/
def Machine.inbound (m : Machine) : Inbound := ⟨m.device.inbox, m.telemetry, m.motor.voltage⟩

/-- 読めた電圧のうち最後のもの。一つも読めていなければ `v`。 -/
def latest (v : Float) (rs : List (Option Float)) : Float := rs.foldl (fun v r => r.getD v) v

theorem latest_append (v : Float) (rs ss : List (Option Float)) :
    latest v (rs ++ ss) = latest (latest v rs) ss := by
  simp [latest, List.foldl_append]

/-- 受信の側が `r` から `r'` に変わる間に、`incoming` が届き、chunk の列 `cs` が順に切り出しに
渡された：待ち行列から取り除いた byte はちょうど `cs` をつないだもので、切り出しは `cs` を順に
足した後、電圧は最後に読めた電圧。 -/
structure Feeds (r : Inbound) (incoming : Bytes) (cs : List Bytes) (r' : Inbound) : Prop where
  inbox : r.inbox ++ incoming = cs.flatten ++ r'.inbox
  telemetry : r'.telemetry = r.telemetry.feedAll cs
  voltage : r'.voltage = latest r.voltage (r.telemetry.readings cs)

theorem Feeds.refl (r : Inbound) : Feeds r [] [] r := ⟨by simp, rfl, rfl⟩

theorem Feeds.trans {r₁ r₂ r₃ : Inbound} {a b : Bytes} {cs ds : List Bytes}
    (h₁ : Feeds r₁ a cs r₂) (h₂ : Feeds r₂ b ds r₃) : Feeds r₁ (a ++ b) (cs ++ ds) r₃ where
  inbox := by rw [← List.append_assoc, h₁.inbox, List.append_assoc, h₂.inbox, List.flatten_append,
    List.append_assoc]
  telemetry := by rw [h₂.telemetry, h₁.telemetry, Extractor.feedAll_append]
  voltage := by
    rw [h₂.voltage, h₁.voltage, h₁.telemetry, Extractor.readings_append, latest_append]

/-- 届いた byte は待ち行列の後ろに足される。 -/
theorem Feeds.receive (r : Inbound) (data : Bytes) :
    Feeds r data [] { r with inbox := r.inbox ++ data } := ⟨by simp, rfl, rfl⟩

/-- 待ち行列を全部一つの chunk として切り出しに渡し、電圧が読めれば覚える。 -/
theorem Feeds.drain (r : Inbound) :
    Feeds r [] [r.inbox]
      ⟨[], (r.telemetry.feed r.inbox).next, ((r.telemetry.feed r.inbox).voltage).getD r.voltage⟩ :=
  ⟨by simp, rfl, rfl⟩

/-! ## 受信の側を切り出しに渡すことでしか変えない操作 -/

/-- `m'` は、`m` の待ち行列の先頭の byte を順に切り出しに渡しただけの状態。 -/
def Machine.Forwards (m m' : Machine) : Prop := ∃ cs, Feeds m.inbound [] cs m'.inbound

theorem Machine.Forwards.of_inbound {m m' : Machine} (h : m'.inbound = m.inbound) :
    m.Forwards m' :=
  ⟨[], h ▸ Feeds.refl m.inbound⟩

theorem Machine.Forwards.trans {m₁ m₂ m₃ : Machine} (h₁ : m₁.Forwards m₂) (h₂ : m₂.Forwards m₃) :
    m₁.Forwards m₃ := by
  obtain ⟨cs, h₁⟩ := h₁
  obtain ⟨ds, h₂⟩ := h₂
  exact ⟨cs ++ ds, by simpa using h₁.trans h₂⟩

/-- どの状態から走らせても、受信の側を切り出しに渡すことでしか変えない操作。 -/
def Act.Forwards {α : Type} (x : Act α) : Prop := ∀ m : Machine, m.Forwards (x.go m).2

/-- どの状態から走らせても、受信の側を切り出しに渡すことでしか変えない、失敗しうる操作。 -/
def Op.Forwards {α : Type} (x : Op α) : Prop := ∀ m : Machine, m.Forwards (x.go m).2

section Combinators

variable {α β : Type}

theorem Act.Forwards.bind {x : Act α} {f : α → Act β} (hx : x.Forwards)
    (hf : ∀ a, (f a).Forwards) : (x >>= f).Forwards := by
  intro m
  have h := hx m
  rw [Act.go_bind]
  generalize x.go m = p at h ⊢
  obtain ⟨_ | a, m'⟩ := p
  · exact h
  · exact h.trans (hf a m')

theorem Op.Forwards.bind {x : Op α} {f : α → Op β} (hx : x.Forwards)
    (hf : ∀ a, (f a).Forwards) : (x >>= f).Forwards := by
  intro m
  have h := hx m
  rw [Op.go_bind]
  generalize x.go m = p at h ⊢
  obtain ⟨_ | _ | a, m'⟩ := p
  · exact h
  · exact h
  · exact h.trans (hf a m')

theorem Act.Forwards.map {x : Act α} (f : α → β) (hx : x.Forwards) : (f <$> x).Forwards := by
  intro m
  have h := hx m
  rw [Act.go_map]
  generalize x.go m = p at h ⊢
  obtain ⟨_ | a, m'⟩ := p <;> exact h

theorem Act.Forwards.pure (a : α) : (pure a : Act α).Forwards :=
  fun _ => Machine.Forwards.of_inbound rfl

theorem Op.Forwards.pure (a : α) : (pure a : Op α).Forwards :=
  fun _ => Machine.Forwards.of_inbound rfl

theorem Op.Forwards.throw (e : Error) : (throw e : Op α).Forwards :=
  fun _ => Machine.Forwards.of_inbound rfl

/-- 受信の側を変えない書き換え。 -/
theorem Op.Forwards.modify {f : Machine → Machine} (hf : ∀ m, (f m).inbound = m.inbound) :
    (modify f : Op PUnit).Forwards :=
  fun m => Machine.Forwards.of_inbound (hf m)

theorem emit_forwards (l : Log.Level) (s : Log.Source) (t : String) : (emit l s t).Forwards :=
  fun _ => Machine.Forwards.of_inbound rfl

theorem Op.Forwards.liftM {x : Act α} (hx : x.Forwards) : (liftM x : Op α).Forwards := by
  intro m
  have h := hx m
  rw [Op.go_liftM]
  generalize x.go m = p at h ⊢
  obtain ⟨_ | a, m'⟩ := p <;> exact h

theorem Act.Forwards.attempt {x : Op α} (hx : x.Forwards) : (x.attempt : Act _).Forwards :=
  fun m => by rw [Act.go_attempt]; exact hx m

theorem Act.Forwards.get : (get : Act Machine).Forwards :=
  fun _ => Machine.Forwards.of_inbound rfl

theorem Op.Forwards.get : (get : Op Machine).Forwards :=
  fun _ => Machine.Forwards.of_inbound rfl

end Combinators

/-! ## 受信の側に触れない操作 -/

/-- どの状態から走らせても受信の側を変えない、失敗しうる操作。 -/
def Op.Keeps {α : Type} (x : Op α) : Prop := ∀ m : Machine, (x.go m).2.inbound = m.inbound

section Keeps

variable {α β : Type}

theorem Op.Keeps.forwards {x : Op α} (hx : x.Keeps) : x.Forwards :=
  fun m => Machine.Forwards.of_inbound (hx m)

theorem Op.Keeps.bind {x : Op α} {f : α → Op β} (hx : x.Keeps) (hf : ∀ a, (f a).Keeps) :
    (x >>= f).Keeps := by
  intro m
  have h := hx m
  rw [Op.go_bind]
  generalize x.go m = p at h ⊢
  obtain ⟨_ | _ | a, m'⟩ := p
  · exact h
  · exact h
  · exact (hf a m').trans h

theorem Op.Keeps.pure (a : α) : (pure a : Op α).Keeps := fun _ => rfl

theorem Op.Keeps.throw (e : Error) : (throw e : Op α).Keeps := fun _ => rfl

end Keeps

/-- 書き込みは送った byte に足すだけで、受信の待ち行列には触れない。 -/
theorem writePacket_keeps (data : Bytes) : (writePacket data).Keeps := by
  intro m
  rw [writePacket_go]
  split
  · split
    · rfl
    · rfl
    · rename_i d hw
      rw [Device.eq_of_write_ok hw]
      rfl
  · rfl

theorem announce_keeps (side : Track) (speed : Int) : (announce side speed).Keeps := by
  intro m
  simp only [announce, Op.go_bind, encode_commandPacket]
  rfl

theorem send_keeps (side : Track) (speed : Int) : (send side speed).Keeps :=
  (announce_keeps side speed).bind fun p => writePacket_keeps p.bytes

theorem prepareSetEsc_keeps (setup : Setup) (side : Track) (throttle : Float) :
    (prepareSetEsc setup side throttle).Keeps := by
  unfold prepareSetEsc
  cases throttle.isNaN
  · dsimp only
    generalize (setup.sides.get side).range.speed _ = r
    cases r with
    | error e => exact .throw _
    | ok speed => exact (announce_keeps side speed).bind fun p => .pure _
  · exact .throw _

/-! ## 受信を読む -/

/-- 受信を読む操作の後の受信の側：読めた byte を切り出しに渡し、電圧が読めれば覚える。
読めなければ、読もうとした後の状態のまま。 -/
theorem pollTelemetry_inbound (m : Machine) :
    (pollTelemetry.go m).2.inbound =
      match readAvailable.go m with
      | (.ok (.ok data), m') => ⟨m'.device.inbox, (m'.telemetry.feed data).next,
          ((m'.telemetry.feed data).voltage).getD m'.motor.voltage⟩
      | (_, m') => m'.inbound := by
  unfold pollTelemetry
  rw [Act.go_bind, Act.go_attempt]
  rcases readAvailable.go m with ⟨_ | e | data, m'⟩
  · rfl
  · -- 閉じた線からの受信も、読み出しの失敗も、記録を足すだけ
    rcases e with (_ | _ | _) | _ | _ <;> rfl
  · simp only [Act.go_bind, Act.go_get]
    cases (m'.telemetry.feed data).voltage <;> split <;> rfl

/-- 受信を読む操作は、線が開いていて読み出しが失敗しなければ待ち行列を全部一つの chunk として
切り出しに渡し、そうでなければ（閉じた線、読み出しの失敗）受信の側を変えない。 -/
theorem pollTelemetry_feeds (m : Machine) :
    Feeds m.inbound []
      (if m.isOpen = true ∧ m.device.failReads = false then [m.device.inbox] else [])
      (pollTelemetry.go m).2.inbound := by
  rw [pollTelemetry_inbound, readAvailable_go]
  by_cases ho : m.isOpen = true
  · by_cases hf : m.device.failReads = true
    · simp only [ho, hf, Device.available, if_true, Bool.true_eq_false, and_false, if_false]
      exact Feeds.refl _
    · have hf' : m.device.failReads = false := by simpa using hf
      simp only [ho, hf', Device.available, if_true, Bool.false_eq_true, and_self, if_false]
      cases h : m.device.inbox with
      | nil =>
        -- 空の待ち行列でも、空の chunk を渡す
        simpa [Machine.inbound, h] using Feeds.drain m.inbound
      | cons b bs => simpa [Machine.inbound, h] using Feeds.drain m.inbound
  · simp only [ho]
    exact Feeds.refl _

theorem pollTelemetry_forwards : pollTelemetry.Forwards :=
  fun m => ⟨_, pollTelemetry_feeds m⟩

/-! ## 指令、停止、後始末 -/

theorem stopTrack_forwards (setup : Setup) (side : Track) : (stopTrack setup side).Forwards := by
  unfold stopTrack
  refine .bind (.attempt ?_) fun r => ?_
  · split
    · exact .throw _
    · exact (send_keeps side _).forwards
  · split
    · exact .pure _
    · exact (emit_forwards _ _ _).bind fun _ => .pure _

/-- 両側を止める操作は、両側を試した後に一度だけ受信を読む。 -/
theorem stopAll_forwards (setup : Setup) : (stopAll setup).Forwards := by
  unfold stopAll
  refine .bind (.liftM (stopTrack_forwards setup .left)) fun e₁ => ?_
  refine .bind (.liftM (stopTrack_forwards setup .right)) fun e₂ => ?_
  refine .bind (.liftM pollTelemetry_forwards) fun _ => ?_
  split
  · exact .throw _
  · exact .modify fun _ => rfl

theorem finishSetEsc_forwards (side : Track) (t : Float) (p : Packet) :
    (finishSetEsc side t p).Forwards := by
  unfold finishSetEsc
  refine (writePacket_keeps _).forwards.bind fun _ =>
    .bind (.modify ?_) fun _ => .liftM pollTelemetry_forwards
  -- 指令の記録は電圧に触れない
  exact fun _ => rfl

theorem setEsc_forwards (setup : Setup) (side : Track) (throttle : Float) :
    (setEsc setup side throttle).Forwards := by
  unfold setEsc
  exact (prepareSetEsc_keeps setup side throttle).forwards.bind fun ⟨t, p⟩ =>
    finishSetEsc_forwards side t p

theorem stopIfStale_forwards (setup : Setup) (deadline now : Nat) :
    (stopIfStale setup deadline now).Forwards := by
  unfold stopIfStale
  refine .bind .get fun m => ?_
  dsimp only
  split
  · exact .pure _
  · split
    · exact .pure _
    · exact (stopAll_forwards setup).bind fun _ => .pure _

theorem refreshTelemetry_forwards : refreshTelemetry.Forwards := by
  unfold refreshTelemetry
  exact pollTelemetry_forwards.bind fun _ => Act.Forwards.get.bind fun _ => .pure _

theorem beginCleanup_forwards : beginCleanup.Forwards :=
  fun m => Machine.Forwards.of_inbound (by rw [beginCleanup_go]; split <;> rfl)

theorem finalStop_forwards (setup : Setup) : (finalStop setup).Forwards := by
  unfold finalStop
  refine .bind (.attempt (stopAll_forwards setup)) fun r => ?_
  split
  · exact .pure _
  · exact emit_forwards _ _ _

theorem closeLink_forwards : closeLink.Forwards :=
  fun m => Machine.Forwards.of_inbound (by rw [closeLink_go]; split <;> rfl)

theorem start_forwards (setup : Setup) : (start setup).Forwards := by
  unfold start
  refine .bind (.liftM (.attempt (stopAll_forwards setup))) fun r => ?_
  split
  · refine .bind (.modify ?_) fun _ => .throw _
    exact fun _ => rfl
  · exact Op.Forwards.get.bind fun _ => .liftM (emit_forwards _ _ _)

/-- 指令が成功しなければ（NaN、範囲の外の速度、閉じた線、書き込みの失敗や中断）、受信は読まれず、
受信の側は変わらない。書けた指令は必ず受信を読んで成功する。 -/
theorem setEsc_failed_keeps {setup : Setup} {side : Track} {throttle : Float} {m : Machine}
    (h : succeeded ((setEsc setup side throttle).go m).1 = false) :
    ((setEsc setup side throttle).go m).2.inbound = m.inbound := by
  have hp := prepareSetEsc_keeps setup side throttle m
  unfold setEsc at h ⊢
  rw [Op.go_bind] at h ⊢
  generalize (prepareSetEsc setup side throttle).go m = q at h hp ⊢
  obtain ⟨_ | _ | ⟨t, p⟩, m₁⟩ := q
  · exact hp
  · exact hp
  have hw := writePacket_keeps p.bytes m₁
  dsimp only at h ⊢
  unfold finishSetEsc at h ⊢
  rw [Op.go_bind] at h ⊢
  generalize (writePacket p.bytes).go m₁ = q at h hw ⊢
  obtain ⟨_ | _ | ⟨⟩, m₂⟩ := q
  · exact hw.trans hp
  · exact hw.trans hp
  · -- 書けた後は受信を読むだけで、それは必ず成功する
    dsimp only at h
    rw [Op.go_bind, Op.go_modify] at h
    dsimp only at h
    obtain ⟨m₃, h₃, -⟩ := pollTelemetry_lift_core _
    rw [h₃] at h
    cases h

/-! ## 区間と外の出来事 -/

/-- どの区間も、受信の側を切り出しに渡すことでしか変えない。 -/
theorem Section.run_forwards (setup : Setup) (m : Machine) (s : Section) :
    m.Forwards (s.run setup m) := by
  cases s with
  | setEsc side t => exact setEsc_forwards setup side t m
  | stop => exact stopAll_forwards setup m
  | stopIfStale deadline now => exact stopIfStale_forwards setup deadline now m
  | refresh => exact refreshTelemetry_forwards m
  | beginCleanup => exact beginCleanup_forwards m
  | finalStop => exact finalStop_forwards setup m
  | skipFinalStop => exact emit_forwards _ _ _ m
  | closeLink => exact closeLink_forwards m

/-- 外の出来事で基板から届く byte。 -/
def Outside.incoming : Outside → Bytes
  | .receive data => data
  | _ => []

/-- 外の出来事は、届いた byte を待ち行列の後ろに足すだけ。故障の切り替えも時間の経過も
受信の側に触れない。 -/
theorem Outside.run_feeds (m : Machine) (e : Outside) :
    Feeds m.inbound e.incoming [] (e.run m).inbound := by
  cases e with
  | receive data => exact Feeds.receive m.inbound data
  | failWrites on | failReads on | abortWrites on | wait ns => exact Feeds.refl m.inbound

end TankDrive.Controller

namespace TankDrive

open Controller Telemetry Wire

/-- 見回りも、受信の側を切り出しに渡すことでしか変えない：古さを確かめ、記録を足し、
最後に受信を読む。 -/
theorem Watchdog.tick_forwards (w : Watchdog) (setup : Setup) (now : Nat) :
    (w.tick setup now).Forwards := by
  have hread : ∀ w' : Watchdog,
      (discard refreshTelemetry >>= fun _ => pure w' : Act Watchdog).Forwards :=
    fun _ => (refreshTelemetry_forwards.map fun _ => ()).bind fun _ => .pure _
  unfold Watchdog.tick
  refine .bind (.attempt (stopIfStale_forwards _ _ _)) fun r => ?_
  -- 確かめの結果ごとに、記録を足して watchdog を決め、最後に受信を読む
  dsimp only
  split
  · split
    · exact (emit_forwards _ _ _).bind fun _ => (Act.Forwards.pure _).bind hread
    · exact (Act.Forwards.pure _).bind hread
  · exact (Act.Forwards.pure _).bind hread
  · exact (emit_forwards _ _ _).bind fun _ => (Act.Forwards.pure _).bind hread
  · split <;> exact (emit_forwards _ _ _).bind fun _ => (Act.Forwards.pure _).bind hread

/-- 一歩の間に基板から届く byte。 -/
def Event.incoming : Event → Bytes
  | .outside e => e.incoming
  | _ => []

namespace World

/-- 一歩は、届いた byte を待ち行列の後ろに足すか、受信の側を切り出しに渡すことでしか変えない。 -/
theorem step_feeds (setup : Setup) (x : World) (e : Event) :
    ∃ cs, Feeds x.machine.inbound e.incoming cs (x.step setup e).machine.inbound := by
  cases e with
  | locked s => exact s.run_forwards setup x.machine
  | tick now =>
    -- 見回りが中断しても、制御器は中断までの状態
    have h : (x.step setup (.tick now)).machine = ((x.watchdog.tick setup now).go x.machine).2 := by
      simp only [step]
      split <;> rename_i heq <;> rw [heq]
    rw [h]
    exact x.watchdog.tick_forwards setup now x.machine
  | outside e => exact ⟨[], Outside.run_feeds x.machine e⟩

/-- 走り全体でも同じ：届いた byte を待ち行列の後ろに足し、先頭から切り出しに渡すことでしか
受信の側を変えない。 -/
theorem run_feeds (setup : Setup) (x : World) (es : List Event) :
    ∃ cs, Feeds x.machine.inbound (es.flatMap Event.incoming) cs (x.run setup es).machine.inbound := by
  induction es generalizing x with
  | nil => exact ⟨[], Feeds.refl _⟩
  | cons e es ih =>
    obtain ⟨cs, h₁⟩ := step_feeds setup x e
    obtain ⟨ds, h₂⟩ := ih (x.step setup e)
    exact ⟨cs ++ ds, by simpa using h₁.trans h₂⟩

/-- 線を開いた直後の制御器（始動の成否によらない）と任意の watchdog から、区間、見回り、外の
出来事をどう重ねても、受信の待ち行列には、届いた byte のうち取り除かれていないものが順に残り、
取り除かれた byte は切り出しに渡した chunk を順につないだものにちょうど等しく、切り出しはそれらを
順に足した後で、電圧は最後に読めた電圧（まだなければ 0）である。受信を読む操作は、閉じた線でも
読み出しの失敗でも何も取り除かず、そうでなければ待ち行列を全部渡す。成功しなかった指令は受信の側を
変えない。 -/
theorem received_bytes_fed_in_order (setup : Setup) :
    (∀ (name : String) (device : Device) (clock : Nat) (w : Watchdog) (es : List Event),
      let m := (World.run setup ⟨((start setup).go (Machine.fresh name device clock)).2, w⟩ es).machine
      ∃ cs : List Bytes, device.inbox ++ es.flatMap Event.incoming = cs.flatten ++ m.device.inbox ∧
        m.telemetry = ({} : Extractor).feedAll cs ∧
        m.motor.voltage = latest 0.0 (({} : Extractor).readings cs)) ∧
    (∀ m : Machine, Feeds m.inbound []
      (if m.isOpen = true ∧ m.device.failReads = false then [m.device.inbox] else [])
      (pollTelemetry.go m).2.inbound) ∧
    (∀ (m : Machine) (side : Track) (t : Float), succeeded ((setEsc setup side t).go m).1 = false →
      ((setEsc setup side t).go m).2.inbound = m.inbound) := by
  refine ⟨fun name device clock w es => ?_, pollTelemetry_feeds, fun _ _ _ h => setEsc_failed_keeps h⟩
  obtain ⟨cs, h₁⟩ := start_forwards setup (Machine.fresh name device clock)
  obtain ⟨ds, h₂⟩ := run_feeds setup ⟨_, w⟩ es
  have h := h₁.trans h₂
  exact ⟨cs ++ ds, h.inbox, h.telemetry, h.voltage⟩

/-- 閉じた線への指令は失敗し、待ち行列の byte はそのまま残る。 -/
theorem closed_link_setEsc_keeps_inbox :
    let setup := Setup.ofConfig {}
    let m := { Machine.fresh "mem" { inbox := [0x55, 0xCD, 0xAB] } 0 with isOpen := false }
    succeeded ((setEsc setup .left 0.5).go m).1 = false ∧
      ((setEsc setup .left 0.5).go m).2.inbound = m.inbound := by
  intro setup m
  have h : succeeded ((setEsc setup .left 0.5).go m).1 = false := by decide
  exact ⟨h, (received_bytes_fed_in_order setup).2.2 m .left 0.5 h⟩

end World

end TankDrive
