import TankDrive.Throttle
import TankDrive.Proofs.Binary64.Unpacked
/-!
# 寄せたスロットルと中立の速度

* `clampUnit` は NaN でないスロットルを、NaN でない `[-1, 1]` の値にする（`clampUnit_inUnit`）。
* 符号つき零は寄せても変わらない（`clampUnit_zero`）。
* 符号つき零のスロットルは、どの範囲でも同じ速度 `Range.restSpeed` に写る
  （`Range.speed_of_beq_zero`）。範囲が無限大や NaN を含んでいても変わらない。
  `-0.0` は、逆向きの側で `0.0` の符号を変えたときや、`-0.0` がそのまま寄せられたときに
  現れるので、`0.0` と `-0.0` の両方で中立の packet が出ることが、停止の判定
  （`== 0.0`）と送った packet とを結ぶ。
* NaN でないスロットルは、どの範囲でも速度に写る（`Range.speed_of_not_isNaN`）。
* 確かめを通った範囲で、符号つき零が `neutral` と `==` で等しい値に写るのは、ちょうど
  `max - neutral` が有限のとき（`Range.apply_zero_beq_neutral_iff`）。差が無限大にあふれると、
  零を掛けた積が NaN になり、写した値も NaN になる。確かめは三つの端が有限で順序どおりかしか
  見ないので、`[-1e308, -1e308, 1e308]` は確かめを通り、`0.0` を NaN に写す
  （`overflowing_range_maps_zero_to_nan`）。
-/

namespace TankDrive.Throttle

open Binary64 Float.Model.UnpackedFloat

/-- NaN でなく `[-1, 1]` にあるスロットル。 -/
def InUnit (t : Float) : Prop := t.isNaN = false ∧ -1.0 ≤ t ∧ t ≤ 1.0

theorem inUnit_zero : InUnit 0.0 := ⟨rfl, by decide, by decide⟩

/-- NaN でないスロットルを寄せると、NaN でない `[-1, 1]` の値になる。 -/
theorem clampUnit_inUnit {t : Float} (h : t.isNaN = false) : InUnit (clampUnit t) := by
  unfold clampUnit
  by_cases hlo : t < -1.0
  · rw [if_pos hlo]
    exact ⟨rfl, by decide, by decide⟩
  · rw [if_neg hlo]
    by_cases hhi : 1.0 < t
    · rw [if_pos hhi]
      exact ⟨rfl, by decide, by decide⟩
    · rw [if_neg hhi]
      exact ⟨h, le_of_not_lt h rfl hlo, le_of_not_lt rfl h hhi⟩

/-- 符号つき零は寄せても変わらない。 -/
theorem clampUnit_zero {z : Float} {s : Sign} (hz : unpacked z = .zero s) : clampUnit z = z := by
  have hlo : ¬z < -1.0 := by rw [lt_iff, hz]; cases s <;> decide
  have hhi : ¬1.0 < z := by rw [lt_iff, hz]; cases s <;> decide
  simp only [clampUnit, if_neg hlo, if_neg hhi]

/-- `== 0.0` のスロットルは、寄せても `== 0.0`。 -/
theorem clampUnit_beq_zero {t : Float} (h : (t == 0.0) = true) : (clampUnit t == 0.0) = true := by
  obtain ⟨s, hs⟩ := (beq_zero_iff t).1 h
  rw [clampUnit_zero hs]
  exact h

/-- 範囲の中立の速度：`0.0` を写して丸めた値。 -/
def Range.restSpeed (r : Range) : Int := toInt16 (r.neutral + (r.max - r.neutral) * 0.0)

/-- 符号つき零は寄せても変わらず、端でも負でもないので、中立点からの比例の式で写る。 -/
theorem Range.apply_zero (r : Range) {z : Float} {s : Sign} (hz : unpacked z = .zero s) :
    r.apply z = .ok (r.neutral + (r.max - r.neutral) * z) := by
  have hone : (z == 1.0) = false := by rw [beq_eq, hz]; cases s <;> decide
  have hmone : (z == -1.0) = false := by rw [beq_eq, hz]; cases s <;> decide
  have hnonneg : 0.0 ≤ z := by rw [le_iff, hz]; cases s <;> decide
  simp only [Range.apply, isNaN_of_zero hz, clampUnit_zero hz, hone, hmone, hnonneg, Bool.false_eq_true,
    if_false, if_true]

/-- 符号つき零は、どちらの符号でも中立の速度に写る。 -/
theorem Range.speed_zero (r : Range) {z : Float} {s : Sign} (hz : unpacked z = .zero s) :
    r.speed z = .ok r.restSpeed := by
  simp only [Range.speed, r.apply_zero hz, Except.map, Range.restSpeed]
  rw [toInt16_add_mul_zero _ _ hz unpacked_zero]

/-- `0.0` を写すと中立の速度。 -/
theorem Range.speed_rest (r : Range) : r.speed 0.0 = .ok r.restSpeed :=
  r.speed_zero unpacked_zero

/-- `== 0.0` のスロットルは、そのままでも符号を変えても中立の速度に写る。 -/
theorem Range.speed_of_beq_zero (r : Range) {t : Float} (h : (t == 0.0) = true) (flip : Bool) :
    r.speed (if flip then -t else t) = .ok r.restSpeed := by
  obtain ⟨s, hs⟩ := (beq_zero_iff t).1 h
  cases flip with
  | false => exact r.speed_zero hs
  | true => exact r.speed_zero (unpacked_neg_zero hs)

/-! ## NaN でないスロットル -/

/-- NaN でないスロットルは、どの範囲でも速度に写る。 -/
theorem Range.speed_of_not_isNaN (r : Range) {t : Float} (h : t.isNaN = false) :
    ∃ speed, r.speed t = .ok speed := by
  unfold Range.speed Range.apply
  rw [h, if_neg Bool.false_ne_true]
  dsimp only
  split
  · exact ⟨_, rfl⟩
  · split
    · exact ⟨_, rfl⟩
    · split <;> exact ⟨_, rfl⟩

/-- NaN でないスロットルを寄せて、逆向きの側で符号を変えても、NaN にはならない。 -/
theorem directed_not_isNaN {t : Float} (h : t.isNaN = false) (inverted : Bool) :
    (if inverted then -clampUnit t else clampUnit t).isNaN = false := by
  have hc := (clampUnit_inUnit h).1
  cases inverted with
  | false => exact hc
  | true => rw [if_pos rfl, isNaN_neg, hc]

/-! ## 零の行き先と範囲の確かめ -/

/-- 確かめを通った範囲の三つの端は有限。 -/
theorem Range.finite_of_check {r : Range} (h : r.check = .ok ()) :
    r.min.isFinite = true ∧ r.neutral.isFinite = true ∧ r.max.isFinite = true := by
  unfold Range.check at h
  dsimp only at h
  cases hf : (r.min.isFinite && r.neutral.isFinite && r.max.isFinite)
  · rw [hf, Bool.not_false, Bool.true_or, Bool.true_or, if_pos rfl] at h
    cases h
  · rw [Bool.and_eq_true, Bool.and_eq_true] at hf
    exact ⟨hf.1.1, hf.1.2, hf.2⟩

/-- 確かめを通った範囲では、符号つき零が中立点と `==` で等しい値に写るのは、ちょうど
`max - neutral` が有限のとき。有限なら積は零で、零を足した `neutral` は `neutral` と等しい。
有限でなければ積は NaN で、和も NaN になる。 -/
theorem Range.apply_zero_beq_neutral_iff (r : Range) (hc : r.check = .ok ()) {z : Float} {s : Sign}
    (hz : unpacked z = .zero s) :
    (∃ v, r.apply z = .ok v ∧ (v == r.neutral) = true) ↔ (r.max - r.neutral).isFinite = true := by
  rw [r.apply_zero hz]
  constructor
  · rintro ⟨v, hv, hbeq⟩
    cases hv
    cases hd : (unpacked (r.max - r.neutral)).isFinite
    · rw [mul_zero_of_not_isFinite hd hz, add_nan, nan_beq] at hbeq
      cases hbeq
    · exact hd
  · intro hd
    have hn : r.neutral.isNaN = false := isNaN_of_isFinite (Range.finite_of_check hc).2.1
    obtain ⟨t, ht⟩ := mul_zero_of_isFinite hd hz
    exact ⟨_, rfl, by rw [ht]; exact add_zero_beq hn t⟩

/-- 既定の範囲 `[-1000, 0, 1000]` では、`0.0` は中立点の 0 に写る。 -/
theorem default_range_maps_zero_to_neutral :
    Range.default.check = .ok () ∧ unpacked 0.0 = .zero .positive ∧
      ∃ v, Range.default.apply 0.0 = .ok v ∧ (v == Range.default.neutral) = true := by
  have hc : Range.default.check = .ok () := by
    unfold Range.check
    rw [if_neg (by decide)]
  exact ⟨hc, unpacked_zero,
    (Range.apply_zero_beq_neutral_iff Range.default hc unpacked_zero).2 (by decide)⟩

/-- 範囲 `[-1e308, -1e308, 1e308]` は確かめを通るが、`max - neutral` が無限大にあふれて、
`0.0` は NaN に写る。 -/
theorem overflowing_range_maps_zero_to_nan :
    (Range.mk (-1e308) (-1e308) 1e308).check = .ok () ∧
      (Range.mk (-1e308) (-1e308) 1e308).apply 0.0 = .ok (ofUnpacked .notANumber) := by
  constructor
  · unfold Range.check
    rw [if_neg (by decide +kernel)]
  · rw [Range.apply_zero _ unpacked_zero,
      mul_zero_of_not_isFinite (by decide +kernel) unpacked_zero, add_nan]

end TankDrive.Throttle
