import TankDrive.Wire.Crc
import Mathlib
/-!
# 検査符号は多項式の剰余

byte 列 `d` を GF(2) 上の多項式 `msgPoly d` と読む（`d[0]` の最上位 bit が最高次）。`crc d` は、
それに `x^16` を掛けて生成多項式 `crcGen = x^16 + x^12 + x^5 + 1` で割った剰余である
（`crc_eq_modByMonic`）。

16 bit の剰余 `c` は、bit `i` を `x^i` の係数とする多項式 `natPoly c.toNat` と読む。

* `shift` は `x` を掛け、`x^16` の係数が出たら `crcGen` を足す（`natPoly_shift`）。`crcGen` を法と
  すれば、ただ `x` を掛けることになる（`residue_shift`）。
* `crcStep` は byte を上の 8 bit に足して 8 回進めるので、法 `crcGen` で
  `x^8 * (c + x^8 * b)` になる（`residue_crcStep`）。
* byte 列を畳み込むと、法 `crcGen` で `msgPoly d * x^16` に等しく、次数は 16 未満なので剰余そのもの。

剰余は多項式について線形なので、同じ長さの二つの列の xor の検査符号は検査符号の xor になり、
先頭の 0 の byte は検査符号を変えない（`crc_is_xmodem_remainder`）。
-/

namespace TankDrive.Wire

open Polynomial

noncomputable section

/-! ## bit を係数にした多項式 -/

/-- bit を GF(2) の元として読む。 -/
def bitCoeff (b : Bool) : ZMod 2 := if b then 1 else 0

theorem bitCoeff_xor (a b : Bool) : bitCoeff (a ^^ b) = bitCoeff a + bitCoeff b := by
  cases a <;> cases b <;> decide

theorem bitCoeff_injective : Function.Injective bitCoeff := by decide

/-- 立っている bit の位置は、その数より小さい。 -/
theorem bitCoeff_support (n i : Nat) (h : bitCoeff (n.testBit i) ≠ 0) : i ∈ Finset.range n := by
  have ht : n.testBit i = true := by
    cases hb : n.testBit i
    · simp [hb, bitCoeff] at h
    · rfl
  exact Finset.mem_range.2 (lt_of_lt_of_le Nat.lt_two_pow_self (Nat.ge_two_pow_of_testBit ht))

/-- 自然数 `n` の bit `i` を `X^i` の係数とする GF(2) 上の多項式。 -/
def natPoly (n : Nat) : (ZMod 2)[X] :=
  .ofFinsupp (.ofCoeff (Finsupp.onFinset (Finset.range n) (fun i => bitCoeff (n.testBit i))
    (bitCoeff_support n)))

@[simp] theorem coeff_natPoly (n i : Nat) : (natPoly n).coeff i = bitCoeff (n.testBit i) := rfl

theorem natPoly_zero : natPoly 0 = 0 := by
  ext i
  simp [bitCoeff]

theorem natPoly_injective : Function.Injective natPoly := by
  intro a b h
  apply Nat.eq_of_testBit_eq
  intro i
  apply bitCoeff_injective
  rw [← coeff_natPoly, ← coeff_natPoly, h]

/-- xor は多項式の和。 -/
theorem natPoly_xor (a b : Nat) : natPoly (a ^^^ b) = natPoly a + natPoly b := by
  ext i
  simp only [coeff_natPoly, coeff_add, Nat.testBit_xor, bitCoeff_xor]

/-- 左への shift は `X` の冪を掛けること。 -/
theorem natPoly_shiftLeft (n k : Nat) : natPoly (n <<< k) = X ^ k * natPoly n := by
  ext i
  rw [coeff_natPoly, coeff_X_pow_mul', Nat.testBit_shiftLeft]
  split
  · rename_i h
    simp [h]
  · rename_i h
    simp [h, bitCoeff]

/-- `2^k` 未満の数は、`k` 以上の bit が立っていない。 -/
theorem testBit_of_lt_two_pow {n k i : Nat} (h : n < 2 ^ k) (hi : k ≤ i) : n.testBit i = false :=
  Nat.testBit_lt_two_pow (lt_of_lt_of_le h (Nat.pow_le_pow_right (by decide) hi))

/-- `2^k` 未満の数の多項式は、次数が `k` 未満。 -/
theorem degree_natPoly_lt {n k : Nat} (h : n < 2 ^ k) : (natPoly n).degree < k := by
  rw [degree_lt_iff_coeff_zero]
  intro m hm
  rw [coeff_natPoly, testBit_of_lt_two_pow h hm]
  rfl

/-- 16 bit の数を 2 倍して 16 bit に切ると、多項式では `X` を掛けて `X^16` の項を落とす
（GF(2) では足すのと同じ）。 -/
theorem natPoly_double {n : Nat} (h : n < 2 ^ 16) :
    natPoly ((n <<< 1) % 2 ^ 16) = X * natPoly n + C (bitCoeff (n.testBit 15)) * X ^ 16 := by
  ext i
  rw [coeff_add, coeff_C_mul_X_pow, coeff_natPoly, Nat.testBit_mod_two_pow, Nat.testBit_shiftLeft]
  cases i with
  | zero => simp [bitCoeff]
  | succ i =>
    rw [coeff_X_mul, coeff_natPoly]
    rcases Nat.lt_trichotomy i 15 with hi | rfl | hi
    · simp [show i + 1 < 16 by omega, show i + 1 ≠ 16 by omega]
    · cases n.testBit 15 <;> decide
    · -- 16 bit より上の bit は立っていない
      have hb : n.testBit i = false := testBit_of_lt_two_pow h (by omega)
      simp [hb, show ¬(i + 1 < 16) by omega, show i + 1 ≠ 16 by omega, bitCoeff]

/-! ## 生成多項式 -/

/-- CRC-16/XMODEM の生成多項式 `x^16 + x^12 + x^5 + 1`。 -/
def crcGen : (ZMod 2)[X] := X ^ 16 + X ^ 12 + X ^ 5 + 1

/-- `crcPoly`（`0x1021`）は、生成多項式から `x^16` を除いた部分。 -/
theorem natPoly_crcPoly : natPoly crcPoly.toNat = X ^ 12 + X ^ 5 + 1 := by
  ext i
  rw [coeff_natPoly]
  simp only [coeff_add, coeff_X_pow, coeff_one]
  by_cases hi : i < 13
  · interval_cases i <;> decide
  · rw [testBit_of_lt_two_pow (by decide : crcPoly.toNat < 2 ^ 13) (by omega)]
    simp [bitCoeff, show i ≠ 12 by omega, show i ≠ 5 by omega, show i ≠ 0 by omega]

theorem crcGen_eq : crcGen = X ^ 16 + natPoly crcPoly.toNat := by
  rw [natPoly_crcPoly, crcGen]
  ring

theorem degree_natPoly_crcPoly : (natPoly crcPoly.toNat).degree < 16 :=
  degree_natPoly_lt (by decide)

theorem crcGen_monic : crcGen.Monic := by
  rw [crcGen_eq]
  exact monic_X_pow_add degree_natPoly_crcPoly

theorem degree_crcGen : crcGen.degree = 16 := by
  rw [crcGen_eq, degree_add_eq_left_of_degree_lt (by rw [degree_X_pow]; exact degree_natPoly_crcPoly),
    degree_X_pow]
  rfl

/-! ## 剰余を進める -/

/-- `shift` が見る最上位 bit。 -/
theorem and_0x8000 (c : UInt16) : (c &&& 0x8000 != 0) = c.toNat.testBit 15 := by
  have h : (c &&& 0x8000).toNat = (c.toNat.testBit 15).toNat * 2 ^ 15 := by
    rw [UInt16.toNat_and]
    exact Nat.and_two_pow c.toNat 15
  cases hb : c.toNat.testBit 15
  · have : c &&& 0x8000 = 0 := UInt16.toNat_inj.1 (by rw [h, hb]; rfl)
    simp [this]
  · have : c &&& 0x8000 ≠ 0 := fun h0 => by rw [h0, hb] at h; simp at h
    simpa using this

/-- 剰余を 1 bit 進めると、多項式では `X` を掛けて、`x^16` の係数が出たら `crcGen` を足す。 -/
theorem natPoly_shift (c : UInt16) :
    natPoly (shift c).toNat = X * natPoly c.toNat + C (bitCoeff (c.toNat.testBit 15)) * crcGen := by
  have hd := natPoly_double c.toNat_lt
  have hshl : (c <<< 1).toNat = (c.toNat <<< 1) % 2 ^ 16 := by
    rw [UInt16.toNat_shiftLeft]
    rfl
  unfold shift
  rw [and_0x8000]
  cases hb : c.toNat.testBit 15
  · rw [if_neg (by simp), hshl, hd, hb]
    simp [bitCoeff]
  · -- 最上位 bit が出たので、落とした `x^16` と `crcPoly` を合わせて `crcGen` を足したことになる
    rw [if_pos rfl, UInt16.toNat_xor, natPoly_xor, hshl, hd, hb, crcGen_eq]
    simp only [bitCoeff, if_true, map_one, one_mul]
    ring

/-- `crcGen` を法とする剰余類。 -/
def residue : (ZMod 2)[X] →+* AdjoinRoot crcGen := AdjoinRoot.mk crcGen

theorem residue_crcGen : residue crcGen = 0 := AdjoinRoot.mk_self

theorem residue_eq_iff {p q : (ZMod 2)[X]} : residue p = residue q ↔ crcGen ∣ p - q :=
  AdjoinRoot.mk_eq_mk

theorem residue_shift (c : UInt16) :
    residue (natPoly (shift c).toNat) = residue X * residue (natPoly c.toNat) := by
  rw [natPoly_shift, map_add, map_mul, map_mul, residue_crcGen, mul_zero, add_zero]

theorem residue_shifts (n : Nat) (c : UInt16) :
    residue (natPoly (shifts n c).toNat) = residue X ^ n * residue (natPoly c.toNat) := by
  induction n with
  | zero => simp [shifts]
  | succ n ih =>
    rw [shifts, residue_shift, ih, pow_succ]
    ring

/-- byte を上の 8 bit に入れることは、`X^8` を掛けること。 -/
theorem natPoly_byte (b : UInt8) : natPoly (b.toUInt16 <<< 8).toNat = X ^ 8 * natPoly b.toNat := by
  have h : (b.toUInt16 <<< 8).toNat = b.toNat <<< 8 := by
    rw [UInt16.toNat_shiftLeft, UInt8.toNat_toUInt16]
    have := b.toNat_lt
    rw [show (8 : UInt16).toNat % 16 = 8 from rfl, Nat.mod_eq_of_lt]
    rw [Nat.shiftLeft_eq]
    omega
  rw [h, natPoly_shiftLeft]

/-- 1 byte 分の一歩は、法 `crcGen` で `x^8 * (c + x^8 * b)`。 -/
theorem residue_crcStep (c : UInt16) (b : UInt8) :
    residue (natPoly (crcStep c b).toNat) =
      residue X ^ 8 * (residue (natPoly c.toNat) + residue X ^ 8 * residue (natPoly b.toNat)) := by
  rw [crcStep, residue_shifts, UInt16.toNat_xor, natPoly_xor, natPoly_byte, map_add, map_mul,
    map_pow]

/-! ## byte 列の多項式 -/

/-- 読んだ多項式に次の byte を足す：前の部分を 8 次上げて、byte の bit を下に置く。 -/
def msgStep (p : (ZMod 2)[X]) (b : UInt8) : (ZMod 2)[X] := p * X ^ 8 + natPoly b.toNat

/-- byte 列を、先頭の byte の最上位 bit を最高次とする多項式として読む。 -/
def msgPoly (d : Bytes) : (ZMod 2)[X] := d.foldl msgStep 0

/-- 剰余を畳み込むと、法 `crcGen` で、読んだ多項式に `x^16` を掛けたものになる。帰納法は byte 列に
ついてで、剰余と多項式の対応が各 byte で保たれる。 -/
theorem residue_foldl_crcStep (d : Bytes) (c : UInt16) (p : (ZMod 2)[X])
    (h : residue (natPoly c.toNat) = residue (p * X ^ 16)) :
    residue (natPoly (d.foldl crcStep c).toNat) = residue (d.foldl msgStep p * X ^ 16) := by
  induction d generalizing c p with
  | nil => exact h
  | cons b d ih =>
    apply ih
    rw [residue_crcStep, h, msgStep]
    simp only [map_add, map_mul, map_pow]
    ring

/-- 検査符号は、byte 列の多項式に `x^16` を掛けて `crcGen` で割った剰余。 -/
theorem crc_eq_modByMonic (d : Bytes) :
    natPoly (crc d).toNat = (msgPoly d * X ^ 16) %ₘ crcGen := by
  have hres : residue (natPoly (crc d).toNat) = residue (msgPoly d * X ^ 16) :=
    residue_foldl_crcStep d 0 0 (by simp [natPoly_zero])
  rw [modByMonic_eq_of_dvd_sub crcGen_monic (residue_eq_iff.1 hres.symm),
    (modByMonic_eq_self_iff crcGen_monic).2]
  rw [degree_crcGen]
  exact degree_natPoly_lt (crc d).toNat_lt

/-- 多項式が同じ byte 列は、検査符号も同じ。 -/
theorem crc_eq_of_msgPoly_eq {a b : Bytes} (h : msgPoly a = msgPoly b) : crc a = crc b := by
  apply UInt16.toNat_inj.1
  apply natPoly_injective
  rw [crc_eq_modByMonic, crc_eq_modByMonic, h]

/-! ## 線形性と先頭の 0 -/

/-- 同じ長さの列の xor を読んだ多項式は、それぞれの多項式の和。 -/
theorem foldl_msgStep_zipWith_xor (a b : Bytes) (h : a.length = b.length) (p q : (ZMod 2)[X]) :
    (List.zipWith (· ^^^ ·) a b).foldl msgStep (p + q) = a.foldl msgStep p + b.foldl msgStep q := by
  induction a generalizing b p q with
  | nil =>
    cases b with
    | nil => rfl
    | cons _ _ => cases h
  | cons x a ih =>
    cases b with
    | nil => cases h
    | cons y b =>
      have hstep : msgStep (p + q) (x ^^^ y) = msgStep p x + msgStep q y := by
        rw [msgStep, msgStep, msgStep, UInt8.toNat_xor, natPoly_xor]
        ring
      rw [List.zipWith_cons_cons, List.foldl_cons, hstep]
      exact ih b (Nat.succ.inj h) _ _

theorem crc_zipWith_xor (a b : Bytes) (h : a.length = b.length) :
    crc (List.zipWith (· ^^^ ·) a b) = crc a ^^^ crc b := by
  apply UInt16.toNat_inj.1
  apply natPoly_injective
  have hmsg : msgPoly (List.zipWith (· ^^^ ·) a b) = msgPoly a + msgPoly b := by
    rw [msgPoly, ← add_zero (0 : (ZMod 2)[X]), foldl_msgStep_zipWith_xor a b h]
    rfl
  rw [UInt16.toNat_xor, natPoly_xor, crc_eq_modByMonic, crc_eq_modByMonic, crc_eq_modByMonic, hmsg,
    add_mul, add_modByMonic]

/-- 先頭の 0 の byte は、読んだ多項式を変えない。 -/
theorem msgPoly_zeros_append (n : Nat) (d : Bytes) :
    msgPoly (List.replicate n 0 ++ d) = msgPoly d := by
  have hzeros : (List.replicate n (0 : UInt8)).foldl msgStep 0 = 0 := by
    induction n with
    | zero => rfl
    | succ n ih =>
      rw [List.replicate_succ, List.foldl_cons,
        show msgStep 0 0 = 0 by rw [msgStep, zero_mul, zero_add]; exact natPoly_zero, ih]
  rw [msgPoly, List.foldl_append, hzeros]
  rfl

/-- 検査符号は CRC-16/XMODEM：byte 列の多項式に `x^16` を掛けて `x^16 + x^12 + x^5 + 1` で割った
剰余で、`"123456789"` の検査符号は `0x31C3`。同じ長さの列の xor の検査符号は検査符号の xor で、
先頭の 0 の byte は検査符号を変えない。 -/
theorem crc_is_xmodem_remainder :
    (∀ d : Bytes, natPoly (crc d).toNat = (msgPoly d * X ^ 16) %ₘ crcGen) ∧
    -- `"123456789"` の ASCII の byte
    crc [0x31, 0x32, 0x33, 0x34, 0x35, 0x36, 0x37, 0x38, 0x39] = 0x31C3 ∧
    (∀ a b : Bytes, a.length = b.length → crc (List.zipWith (· ^^^ ·) a b) = crc a ^^^ crc b) ∧
    (∀ (n : Nat) (d : Bytes), crc (List.replicate n 0 ++ d) = crc d) :=
  ⟨crc_eq_modByMonic, by decide +kernel, crc_zipWith_xor,
    fun n d => crc_eq_of_msgPoly_eq (msgPoly_zeros_append n d)⟩

/-- 指令の packet の頭 5 byte と、その 1 bit を反転した列の xor の検査符号。 -/
theorem crc_xor_of_packet_heads :
    [0x2F, 0x01, 0x0C, 0xFE, 0x20].length = [0x00, 0x00, 0x00, 0x01, 0x00].length ∧
    crc (List.zipWith (· ^^^ ·) [0x2F, 0x01, 0x0C, 0xFE, 0x20] [0x00, 0x00, 0x00, 0x01, 0x00]) =
      crc [0x2F, 0x01, 0x0C, 0xFE, 0x20] ^^^ crc [0x00, 0x00, 0x00, 0x01, 0x00] :=
  ⟨rfl, crc_is_xmodem_remainder.2.2.1 _ _ rfl⟩

end

end TankDrive.Wire
