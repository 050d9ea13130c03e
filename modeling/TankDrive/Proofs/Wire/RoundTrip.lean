import TankDrive.Wire.Packet
/-!
# packet の往復

`Packet.encode` は知っている slave（0 と 1）のときだけ packet を作り、その packet の線の
7 byte を `Packet.ofBytes?` で読むと、slave、`±1000` に飽和させた速度、state がそのまま
戻る（開始 byte と検査符号の確かめも通る）。読み戻せるので、packet を作る写像は
（slave、飽和させた速度、state）について単射になる。

## 主な定理

* `Packet.encode_reads_back`：誤りになるのはちょうど slave が 0 でも 1 でもないとき、
  packet になるのはちょうど 0 か 1 のときで、その 7 byte から入力が読み戻せる。
* `Packet.bytes_injective`：速度が 16 bit に収まる packet は線の byte 列で決まる。
* `Packet.encode_injective`：線の byte 列が同じなら、作るときの slave、飽和させた速度、state も
  同じ。
-/

namespace TankDrive.Wire

/-- 誤りになるのは、ちょうど slave を知らないとき。 -/
theorem Packet.encode_eq_error_iff (slave state : UInt8) (speed : Int) :
    Packet.encode slave speed state = .error (.invalidSlave slave) ↔ slave ∉ knownSlaves := by
  unfold Packet.encode
  split <;> simp_all

/-- packet になるのは、ちょうど slave を知っているときで、中身は飽和させた速度の packet。 -/
theorem Packet.encode_eq_ok_iff (slave state : UInt8) (speed : Int) (p : Packet) :
    Packet.encode slave speed state = .ok p ↔ slave ∈ knownSlaves ∧ p = ⟨slave, saturate speed, state⟩ := by
  unfold Packet.encode
  split
  · rename_i h
    simp only [Except.ok.injEq]
    exact ⟨fun e => ⟨h, e.symm⟩, fun ⟨_, e⟩ => e.symm⟩
  · rename_i h
    simp only [reduceCtorEq, false_iff]
    exact fun ⟨h', _⟩ => h h'

/-- 知っている slave は 0 と 1。 -/
theorem mem_knownSlaves (slave : UInt8) : slave ∈ knownSlaves ↔ slave = 0 ∨ slave = 1 := by
  simp [knownSlaves]

/-- 線の packet はいつも 7 byte。 -/
@[simp] theorem Packet.length_bytes (p : Packet) : p.bytes.length = 7 := rfl

/-- 速度が 16 bit に収まる packet は、線の byte 列で決まる。 -/
theorem Packet.bytes_injective {p q : Packet}
    (hp : -32768 ≤ p.speed ∧ p.speed < 32768) (hq : -32768 ≤ q.speed ∧ q.speed < 32768)
    (h : p.bytes = q.bytes) : p = q := by
  have e := (Packet.ofBytes?_bytes p hp.1 hp.2).symm.trans (h ▸ Packet.ofBytes?_bytes q hq.1 hq.2)
  exact Option.some.inj e

/-- 飽和させた速度の packet は 16 bit に収まる。 -/
theorem saturate_fits (speed : Int) : -32768 ≤ saturate speed ∧ saturate speed < 32768 := by
  have := saturate_bounds speed
  simp only [speedLimit] at this
  omega

/-- 作った packet の線の byte 列が同じなら、slave、飽和させた速度、state も同じ。 -/
theorem Packet.encode_injective {slave slave' state state' : UInt8} {speed speed' : Int}
    {p p' : Packet} (hp : Packet.encode slave speed state = .ok p)
    (hp' : Packet.encode slave' speed' state' = .ok p') (h : p.bytes = p'.bytes) :
    slave = slave' ∧ saturate speed = saturate speed' ∧ state = state' := by
  obtain ⟨-, rfl⟩ := (Packet.encode_eq_ok_iff _ _ _ _).1 hp
  obtain ⟨-, rfl⟩ := (Packet.encode_eq_ok_iff _ _ _ _).1 hp'
  have e := Packet.bytes_injective (saturate_fits speed) (saturate_fits speed') h
  simp only [Packet.mk.injEq] at e
  exact e

/-- packet を作るのは、slave が 0 でも 1 でもないときちょうど誤りになり、0 か 1 のときちょうど
packet になる。その 7 byte を読むと、開始 byte と検査符号の確かめが通り、slave、`±1000` に
飽和させた速度、state が戻る。線の byte 列が同じ二つの packet は、同じ slave、同じ飽和させた
速度、同じ state から作られている。 -/
theorem Packet.encode_reads_back (slave state : UInt8) (speed : Int) :
    (Packet.encode slave speed state = .error (.invalidSlave slave) ↔ slave ≠ 0 ∧ slave ≠ 1) ∧
    ((slave = 0 ∨ slave = 1) ↔ ∃ p, Packet.encode slave speed state = .ok p ∧ p.bytes.length = 7 ∧
      Packet.ofBytes? p.bytes = some ⟨slave, max (-1000) (min 1000 speed), state⟩) ∧
    (∀ (slave' state' : UInt8) (speed' : Int) (p p' : Packet),
      Packet.encode slave speed state = .ok p → Packet.encode slave' speed' state' = .ok p' →
      p.bytes = p'.bytes →
      slave = slave' ∧ max (-1000) (min 1000 speed) = max (-1000) (min 1000 speed') ∧
        state = state') := by
  refine ⟨?_, ?_, ?_⟩
  · rw [Packet.encode_eq_error_iff, mem_knownSlaves, not_or]
  · rw [← mem_knownSlaves]
    constructor
    · intro h
      have fits := saturate_fits speed
      refine ⟨⟨slave, saturate speed, state⟩, (Packet.encode_eq_ok_iff _ _ _ _).2 ⟨h, rfl⟩, rfl, ?_⟩
      exact Packet.ofBytes?_bytes _ fits.1 fits.2
    · rintro ⟨p, hp, -⟩
      exact ((Packet.encode_eq_ok_iff _ _ _ _).1 hp).1
  · intro slave' state' speed' p p' hp hp' h
    exact Packet.encode_injective hp hp' h

-- 右の slave に `-500`：速度は 2 の補数で `0C FE`、検査符号 `0x7A34` は下位の byte が先。
example : (Packet.encode 1 (-500) driveState).toOption.map Packet.bytes =
    some [0x2F, 0x01, 0x0C, 0xFE, 0x20, 0x34, 0x7A] := by decide +kernel

-- 16 bit の最小値は折り返さず `-1000` に飽和し、線の byte からそのまま読み戻される。
example : ((Packet.encode 0 (-32768) driveState).toOption.bind fun p => Packet.ofBytes? p.bytes).map
    Packet.speed = some (-1000) := by decide +kernel

end TankDrive.Wire
