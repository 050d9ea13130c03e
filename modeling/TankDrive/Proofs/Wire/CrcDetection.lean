import TankDrive.Proofs.Wire.CrcRemainder
/-!
# 検査符号が見つける誤り

byte 列 `d` に同じ長さの誤り `e` が xor で重なると、検査符号は `crc d ^^^ crc e` になる
（`crc_zipWith_xor`）。だから誤りが見落とされるのは、ちょうど `crcGen` が誤りの多項式
`msgPoly e` を割り切るときである（`crc_zipWith_xor_eq_iff`）。

bit の位置は、検査符号が読む順（各 byte の最上位の bit から）に数える（`bitAt`）。
位置 `k` の bit は `msgPoly e` の `X^(8n - 1 - k)` の係数になる（`msgPoly_eq_sum`）。

* 立っている bit が奇数個なら、`X = 1` での値が 1 で、`X + 1` で割れる `crcGen` では割り切れない
  （`not_dvd_of_odd`）。
* 立っている bit が連続する 16 の位置に収まるなら、誤りは `X^a` と 16 次未満の多項式の積で、
  `crcGen` は `X` と素なので割り切れない（`crcGen_dvd_X_pow_mul_iff`、`not_dvd_of_burst`）。
* 立っている bit がちょうど二つなら、誤りは `X^a * (X^m + 1)` で、`crcGen` が `X^m + 1` を割り切る
  のは `m` が 32767 の倍数のときに限る（`crcGen_dvd_X_pow_add_one_iff`）。4093 byte 以下の列では
  二つの bit の距離が 32767 に届かない。

`crcGen` を法とする `X` の位数が 32767 であることは、16 bit の剰余の掛け算（`mulRem`）と
二乗して掛ける冪（`powRem`）で `X^32767`、`X^(32767/7)`、`X^(32767/31)`、`X^(32767/151)` の剰余を
求めて確かめる。
-/

namespace TankDrive.Wire

open Polynomial

/-! ## 線に送る順の bit -/

/-- byte 列の `k` 番目の bit。各 byte の最上位の bit から数える。 -/
def bitAt (e : Bytes) (k : Nat) : Bool :=
  match e[k / 8]? with
  | some b => b.toNat.testBit (7 - k % 8)
  | none => false

/-- 立っている bit の位置。 -/
def setBits (e : Bytes) : Finset Nat := (Finset.range (8 * e.length)).filter (bitAt e ·)

theorem bitAt_append_of_lt {e : Bytes} {k : Nat} (f : Bytes) (h : k < 8 * e.length) :
    bitAt (e ++ f) k = bitAt e k := by
  simp only [bitAt, List.getElem?_append_left (show k / 8 < e.length by omega)]

theorem bitAt_append_singleton (e : Bytes) (b : UInt8) {j : Nat} (h : j < 8) :
    bitAt (e ++ [b]) (8 * e.length + j) = b.toNat.testBit (7 - j) := by
  have hq : (8 * e.length + j) / 8 = e.length := by omega
  have hr : (8 * e.length + j) % 8 = j := by omega
  simp only [bitAt, hq, hr, List.getElem?_append_right (Nat.le_refl _), Nat.sub_self]
  rfl

theorem mem_setBits {e : Bytes} {k : Nat} : k ∈ setBits e ↔ k < 8 * e.length ∧ bitAt e k = true := by
  simp [setBits]

/-- 0 でない byte があれば、立っている bit がある。 -/
theorem setBits_nonempty {e : Bytes} (h : ∃ b ∈ e, b ≠ 0) : (setBits e).Nonempty := by
  obtain ⟨b, hb, hne⟩ := h
  obtain ⟨i, hi, rfl⟩ := List.getElem_of_mem hb
  have hnat : e[i].toNat ≠ 0 := fun h0 => hne (UInt8.toNat_inj.1 h0)
  obtain ⟨j, hj⟩ := Nat.exists_testBit_of_ne_zero hnat
  have hj8 : j < 8 := by
    by_contra hge
    rw [testBit_of_lt_two_pow e[i].toNat_lt (by omega)] at hj
    exact Bool.false_ne_true hj
  refine ⟨8 * i + (7 - j), mem_setBits.2 ⟨by omega, ?_⟩⟩
  have hq : (8 * i + (7 - j)) / 8 = i := by omega
  have hr : 7 - (8 * i + (7 - j)) % 8 = j := by omega
  simp only [bitAt, hq, hr, List.getElem?_eq_getElem hi, hj]

/-! ## 誤りの多項式 -/

theorem msgPoly_append_singleton (e : Bytes) (b : UInt8) :
    msgPoly (e ++ [b]) = msgPoly e * X ^ 8 + natPoly b.toNat := by
  simp only [msgPoly, List.foldl_append, List.foldl_cons, List.foldl_nil, msgStep]

/-- `2^w` 未満の数の多項式は、下の `w` 個の bit の和。 -/
theorem natPoly_eq_sum {n w : Nat} (h : n < 2 ^ w) :
    natPoly n = ∑ j ∈ Finset.range w, C (bitCoeff (n.testBit j)) * X ^ j := by
  ext i
  simp only [coeff_natPoly, finsetSum_coeff, coeff_C_mul_X_pow, Finset.sum_ite_eq,
    Finset.mem_range]
  split
  · rfl
  · rw [testBit_of_lt_two_pow h (by omega)]
    rfl

/-- 誤りの多項式は、各位置の bit を `X^(8n - 1 - k)` の係数にしたもの。帰納法は末尾の byte に
ついてで、前の部分は 8 次上がり、新しい byte の bit は下の 8 次に入る。 -/
theorem msgPoly_eq_sum_range (e : Bytes) :
    msgPoly e = ∑ k ∈ Finset.range (8 * e.length),
      C (bitCoeff (bitAt e k)) * X ^ (8 * e.length - 1 - k) := by
  induction e using List.reverseRecOn with
  | nil => simp [msgPoly]
  | append_singleton e b ih =>
    rw [msgPoly_append_singleton, ih, List.length_append, List.length_singleton,
      show 8 * (e.length + 1) = 8 * e.length + 8 by ring, Finset.sum_range_add, Finset.sum_mul]
    refine congrArg₂ (· + ·) ?_ ?_
    · refine Finset.sum_congr rfl fun k hk => ?_
      have hk : k < 8 * e.length := Finset.mem_range.1 hk
      rw [bitAt_append_of_lt _ hk, mul_assoc, ← pow_add,
        show 8 * e.length - 1 - k + 8 = 8 * e.length + 8 - 1 - k by omega]
    · -- 新しい byte の bit `7 - j` は `X^(7 - j)` の係数
      have hlast : ∀ j ∈ Finset.range 8,
          C (bitCoeff (bitAt (e ++ [b]) (8 * e.length + j))) * X ^ (8 * e.length + 8 - 1 - (8 * e.length + j)) =
            C (bitCoeff (b.toNat.testBit (8 - 1 - j))) * X ^ (8 - 1 - j) := by
        intro j hj
        have hj : j < 8 := Finset.mem_range.1 hj
        rw [bitAt_append_singleton e b hj,
          show 8 * e.length + 8 - 1 - (8 * e.length + j) = 8 - 1 - j by omega]
      rw [Finset.sum_congr rfl hlast,
        Finset.sum_range_reflect (fun j => C (bitCoeff (b.toNat.testBit j)) * X ^ j) 8]
      exact natPoly_eq_sum b.toNat_lt

/-- 誤りの多項式は、立っている bit の位置 `k` ごとの `X^(8n - 1 - k)` の和。 -/
theorem msgPoly_eq_sum (e : Bytes) :
    msgPoly e = ∑ k ∈ setBits e, X ^ (8 * e.length - 1 - k) := by
  rw [msgPoly_eq_sum_range, setBits, Finset.sum_filter]
  refine Finset.sum_congr rfl fun k _ => ?_
  cases bitAt e k <;> simp [bitCoeff]

/-- 立っている bit があれば、誤りの多項式は 0 でない。その位置の次数の係数が 1 になる。 -/
theorem msgPoly_ne_zero {e : Bytes} (h : (setBits e).Nonempty) : msgPoly e ≠ 0 := by
  obtain ⟨k, hk⟩ := h
  have hk8 := (mem_setBits.1 hk).1
  intro h0
  have hcoeff : (msgPoly e).coeff (8 * e.length - 1 - k) = 1 := by
    rw [msgPoly_eq_sum, finsetSum_coeff, Finset.sum_eq_single k]
    · simp
    · intro k' hk' hne
      have := (mem_setBits.1 hk').1
      rw [coeff_X_pow, if_neg (by omega)]
    · exact absurd hk
  rw [h0, coeff_zero] at hcoeff
  exact zero_ne_one hcoeff

/-! ## 見落としと割り切れること -/

theorem isCoprime_crcGen_X : IsCoprime crcGen X :=
  ⟨1, -(X ^ 15 + X ^ 11 + X ^ 4), by rw [crcGen]; ring⟩

/-- `crcGen` は `X` と素なので、`X` の冪を掛けても割り切れるかどうかは変わらない。 -/
theorem crcGen_dvd_X_pow_mul_iff (a : Nat) (p : (ZMod 2)[X]) : crcGen ∣ X ^ a * p ↔ crcGen ∣ p :=
  ⟨isCoprime_crcGen_X.pow_right.dvd_of_dvd_mul_left, fun h => dvd_mul_of_dvd_right h _⟩

/-- 検査符号が 0 になるのは、ちょうど `crcGen` が列の多項式を割り切るとき。 -/
theorem crc_eq_zero_iff (e : Bytes) : crc e = 0 ↔ crcGen ∣ msgPoly e := by
  have hzero : crc e = 0 ↔ natPoly (crc e).toNat = 0 := by
    rw [← natPoly_zero, natPoly_injective.eq_iff, ← UInt16.toNat_zero, UInt16.toNat_inj]
  rw [hzero, crc_eq_modByMonic, modByMonic_eq_zero_iff_dvd crcGen_monic, mul_comm,
    crcGen_dvd_X_pow_mul_iff]

/-- 同じ長さの誤り `e` を重ねても検査符号が変わらないのは、ちょうど `crcGen` が誤りの多項式を
割り切るとき。 -/
theorem crc_zipWith_xor_eq_iff {d e : Bytes} (h : e.length = d.length) :
    crc (List.zipWith (· ^^^ ·) d e) = crc d ↔ crcGen ∣ msgPoly e := by
  rw [crc_zipWith_xor d e h.symm, ← crc_eq_zero_iff]
  conv_lhs => rhs; rw [← (UInt16.xor_zero : crc d ^^^ 0 = crc d)]
  exact UInt16.xor_right_inj _

/-! ## 奇数個の bit -/

theorem eval_one_crcGen : crcGen.eval 1 = 0 := by
  simp only [crcGen, eval_add, eval_pow, eval_X, eval_one, one_pow]
  decide

/-- 誤りの多項式の `X = 1` での値は、立っている bit の数の偶奇。 -/
theorem eval_one_msgPoly (e : Bytes) : (msgPoly e).eval 1 = ((setBits e).card : ZMod 2) := by
  rw [msgPoly_eq_sum, eval_finsetSum]
  simp

/-- 立っている bit が奇数個の誤りは、`crcGen` で割り切れない。 -/
theorem not_dvd_of_odd {e : Bytes} (h : (setBits e).card % 2 = 1) : ¬crcGen ∣ msgPoly e := by
  rintro ⟨q, hq⟩
  have heval : ((setBits e).card : ZMod 2) = 0 := by
    rw [← eval_one_msgPoly, hq, eval_mul, eval_one_crcGen, zero_mul]
  have := (ZMod.natCast_eq_zero_iff _ 2).1 heval
  omega

/-! ## 16 bit に収まる誤り -/

/-- 立っている bit が連続する 16 の位置に収まる誤りは、`crcGen` で割り切れない。 -/
theorem not_dvd_of_burst {e : Bytes} {s : Nat} (hne : (setBits e).Nonempty)
    (h : ∀ k ∈ setBits e, s ≤ k ∧ k < s + 16) : ¬crcGen ∣ msgPoly e := by
  -- 誤りは `X^a * B` で、`B` は 16 次未満
  set n := 8 * e.length with hn
  set a := n - (s + 16) with ha
  set B := ∑ k ∈ setBits e, (X : (ZMod 2)[X]) ^ (n - 1 - k - a) with hB
  have hsplit : msgPoly e = X ^ a * B := by
    rw [msgPoly_eq_sum, hB, Finset.mul_sum]
    refine Finset.sum_congr rfl fun k hk => ?_
    have := (mem_setBits.1 hk).1
    have := h k hk
    rw [← pow_add, show a + (n - 1 - k - a) = n - 1 - k by omega]
  have hdeg : B.degree < crcGen.degree := by
    rw [degree_crcGen]
    refine lt_of_le_of_lt (degree_sum_le _ _) ((Finset.sup_lt_iff (WithBot.bot_lt_coe 16)).2 ?_)
    intro k hk
    have := (mem_setBits.1 hk).1
    have := h k hk
    have hlt : n - 1 - k - a < 16 := by omega
    rw [degree_X_pow]
    exact_mod_cast hlt
  have hB0 : B ≠ 0 := by
    intro h0
    exact msgPoly_ne_zero hne (by rw [hsplit, h0, mul_zero])
  rw [hsplit, crcGen_dvd_X_pow_mul_iff]
  exact fun hdvd => hB0 (eq_zero_of_dvd_of_degree_lt hdvd hdeg)

/-! ## 剰余の掛け算と冪 -/

/-- 剰余 `a` に、`n` の下から `k` 個の bit が表す多項式を掛けた剰余。 -/
def mulBits : Nat → UInt16 → Nat → UInt16
  | 0, _, _ => 0
  | k + 1, a, n => (if n.testBit 0 then a else 0) ^^^ mulBits k (shift a) (n / 2)

/-- 二つの剰余の積の剰余。 -/
def mulRem (a b : UInt16) : UInt16 := mulBits 16 a b.toNat

/-- 剰余 `a` の `n` 乗の剰余。`n` の下から `k` 個の bit を読み、二乗しては掛ける。 -/
def powRem : Nat → UInt16 → Nat → UInt16
  | 0, _, _ => 1
  | k + 1, a, n =>
    let r := powRem k (mulRem a a) (n / 2)
    if n.testBit 0 then mulRem a r else r

theorem natPoly_two_pow (k : Nat) : natPoly (2 ^ k) = X ^ k := by
  ext i
  simp only [coeff_natPoly, Nat.testBit_two_pow, coeff_X_pow]
  by_cases h : k = i
  · simp [h, bitCoeff]
  · simp [h, Ne.symm h, bitCoeff]

/-- 一番下の bit と、残りを一つ下げた数とに分ける。 -/
theorem natPoly_eq_bit (n : Nat) : natPoly n = C (bitCoeff (n.testBit 0)) + X * natPoly (n / 2) := by
  ext i
  cases i with
  | zero => simp
  | succ i => simp [coeff_X_mul, Nat.testBit_div_two]

/-- 剰余の多項式の剰余類。 -/
noncomputable abbrev residue16 (a : UInt16) : AdjoinRoot crcGen := residue (natPoly a.toNat)

theorem residue16_one : residue16 1 = 1 := by
  rw [residue16, show (1 : UInt16).toNat = 2 ^ 0 from rfl, natPoly_two_pow, pow_zero, map_one]

theorem residue16_two : residue16 2 = residue X := by
  rw [residue16, show (2 : UInt16).toNat = 2 ^ 1 from rfl, natPoly_two_pow, pow_one]

/-- 16 bit の剰余は、剰余類で決まる。 -/
theorem residue16_injective : Function.Injective residue16 := by
  intro a b h
  have hdvd := residue_eq_iff.1 h
  have hdeg : (natPoly a.toNat - natPoly b.toNat).degree < crcGen.degree := by
    rw [degree_crcGen]
    exact lt_of_le_of_lt (degree_sub_le _ _)
      (max_lt (degree_natPoly_lt a.toNat_lt) (degree_natPoly_lt b.toNat_lt))
  have h0 := eq_zero_of_dvd_of_degree_lt hdvd hdeg
  exact UInt16.toNat_inj.1 (natPoly_injective (sub_eq_zero.1 h0))

theorem residue16_ite (b : Bool) (a : UInt16) :
    residue16 (if b then a else 0) = residue (C (bitCoeff b)) * residue16 a := by
  cases b <;> simp [bitCoeff, residue16, natPoly_zero]

/-- `mulBits` は、`2^k` 未満の `n` について、`a` と `n` の多項式との積の剰余。 -/
theorem residue16_mulBits (k : Nat) (a : UInt16) {n : Nat} (h : n < 2 ^ k) :
    residue16 (mulBits k a n) = residue16 a * residue (natPoly n) := by
  induction k generalizing a n with
  | zero =>
    obtain rfl : n = 0 := by simpa using h
    simp [mulBits, residue16, natPoly_zero]
  | succ k ih =>
    have hhalf : n / 2 < 2 ^ k := by rw [pow_succ] at h; omega
    have hx : residue16 (shift a) = residue X * residue16 a := residue_shift a
    rw [mulBits, residue16, UInt16.toNat_xor, natPoly_xor, map_add, ← residue16, ← residue16,
      residue16_ite, ih (shift a) hhalf, hx, natPoly_eq_bit n, map_add, map_mul]
    ring

theorem residue16_mulRem (a b : UInt16) : residue16 (mulRem a b) = residue16 a * residue16 b :=
  residue16_mulBits 16 a b.toNat_lt

/-- `powRem` は、`2^k` 未満の `n` について `a` の `n` 乗の剰余。 -/
theorem residue16_powRem (k : Nat) (a : UInt16) {n : Nat} (h : n < 2 ^ k) :
    residue16 (powRem k a n) = residue16 a ^ n := by
  induction k generalizing a n with
  | zero =>
    obtain rfl : n = 0 := by simpa using h
    simp [powRem, residue16_one]
  | succ k ih =>
    have hhalf : n / 2 < 2 ^ k := by rw [pow_succ] at h; omega
    have hsq : residue16 (powRem k (mulRem a a) (n / 2)) = residue16 a ^ (2 * (n / 2)) := by
      rw [ih (mulRem a a) hhalf, residue16_mulRem, pow_mul, sq]
    have hn := Nat.div_add_mod n 2
    rw [powRem]
    cases hb : n.testBit 0
    · -- 偶数の冪
      have : n % 2 = 0 := by simpa [Nat.testBit_zero] using hb
      rw [if_neg (by simp), hsq, show 2 * (n / 2) = n by omega]
    · have : n % 2 = 1 := by simpa [Nat.testBit_zero] using hb
      rw [if_pos rfl, residue16_mulRem, hsq, ← pow_succ', show 2 * (n / 2) + 1 = n by omega]

/-! ## `X` の位数 -/

/-- `X^m` の剰余類を、冪の剰余から読む。 -/
theorem residue_X_pow {m : Nat} (h : m < 2 ^ 16) : residue X ^ m = residue16 (powRem 16 2 m) := by
  rw [residue16_powRem 16 2 h, residue16_two]

theorem residue_X_pow_ne_one {m : Nat} (h : m < 2 ^ 16) (hne : powRem 16 2 m ≠ 1) :
    residue X ^ m ≠ 1 := by
  rw [residue_X_pow h, ← residue16_one]
  exact fun heq => hne (residue16_injective heq)

/-- 32767 を割る素数は 7、31、151 だけ。 -/
theorem prime_dvd_32767 {p : Nat} (hp : p.Prime) (h : p ∣ 32767) : p = 7 ∨ p = 31 ∨ p = 151 := by
  rw [show (32767 : Nat) = 7 * 31 * 151 by norm_num] at h
  rcases (Nat.Prime.dvd_mul hp).1 h with h | h
  · rcases (Nat.Prime.dvd_mul hp).1 h with h | h
    · exact .inl ((Nat.prime_dvd_prime_iff_eq hp (by norm_num)).1 h)
    · exact .inr (.inl ((Nat.prime_dvd_prime_iff_eq hp (by norm_num)).1 h))
  · exact .inr (.inr ((Nat.prime_dvd_prime_iff_eq hp (by norm_num)).1 h))

/-- `crcGen` を法とする `X` の位数は 32767。 -/
theorem orderOf_residue_X : orderOf (residue X) = 32767 := by
  have hpow : residue X ^ 32767 = 1 := by
    rw [residue_X_pow (by norm_num), show powRem 16 2 32767 = 1 by decide +kernel, residue16_one]
  refine orderOf_eq_of_pow_and_pow_div_prime (by norm_num) hpow fun p hp hdvd => ?_
  rcases prime_dvd_32767 hp hdvd with rfl | rfl | rfl
  · exact residue_X_pow_ne_one (by norm_num) (by decide +kernel)
  · exact residue_X_pow_ne_one (by norm_num) (by decide +kernel)
  · exact residue_X_pow_ne_one (by norm_num) (by decide +kernel)

/-- `crcGen` が `X^m + 1` を割り切るのは、ちょうど `m` が 32767 の倍数のとき。 -/
theorem crcGen_dvd_X_pow_add_one_iff (m : Nat) : crcGen ∣ X ^ m + 1 ↔ 32767 ∣ m := by
  rw [← CharTwo.sub_eq_add, ← residue_eq_iff, map_pow, map_one, ← orderOf_dvd_iff_pow_eq_one,
    orderOf_residue_X]

/-! ## 二つの bit -/

/-- 立っている bit がちょうど二つで、列が 4093 byte 以下なら、誤りは `crcGen` で割り切れない。 -/
theorem not_dvd_of_two_bits {e : Bytes} (h : (setBits e).card = 2) (hlen : e.length ≤ 4093) :
    ¬crcGen ∣ msgPoly e := by
  obtain ⟨x, y, hxy, hset⟩ := Finset.card_eq_two.1 h
  -- 二つの位置を小さい順に `i < j` とする
  obtain ⟨i, j, hij, hpair⟩ : ∃ i j, i < j ∧ setBits e = {i, j} := by
    rcases lt_or_gt_of_ne hxy with hlt | hgt
    · exact ⟨x, y, hlt, hset⟩
    · exact ⟨y, x, hgt, by rw [hset, Finset.pair_comm]⟩
  have hj : j < 8 * e.length := (mem_setBits.1 (by rw [hpair]; simp)).1
  have hsplit : msgPoly e = X ^ (8 * e.length - 1 - j) * (X ^ (j - i) + 1) := by
    rw [msgPoly_eq_sum, hpair, Finset.sum_pair hij.ne, mul_add, mul_one, ← pow_add,
      show 8 * e.length - 1 - j + (j - i) = 8 * e.length - 1 - i by omega]
  rw [hsplit, crcGen_dvd_X_pow_mul_iff, crcGen_dvd_X_pow_add_one_iff]
  intro hper
  have := Nat.le_of_dvd (by omega) hper
  omega

/-! ## 主な定理 -/

/-- 同じ長さの 0 でない誤り `e` を重ねた列の検査符号は、元の列の検査符号と違う。ただし誤りの
立っている bit が奇数個か、連続する 16 の位置に収まるか、ちょうど二つで列が 4093 byte 以下の
とき。 -/
theorem crc_detects_errors (d e : Bytes) (hlen : e.length = d.length) (hne : ∃ b ∈ e, b ≠ 0)
    (hkind : (setBits e).card % 2 = 1 ∨ (∃ s, ∀ k ∈ setBits e, s ≤ k ∧ k < s + 16) ∨
      ((setBits e).card = 2 ∧ d.length ≤ 4093)) :
    crc (List.zipWith (· ^^^ ·) d e) ≠ crc d := by
  rw [Ne, crc_zipWith_xor_eq_iff hlen]
  rcases hkind with hodd | ⟨s, hburst⟩ | ⟨htwo, hd⟩
  · exact not_dvd_of_odd hodd
  · exact not_dvd_of_burst (setBits_nonempty hne) hburst
  · exact not_dvd_of_two_bits htwo (hlen ▸ hd)

/-- 速度の packet の頭 5 byte で、速度の上の byte の最下位の bit を反転すると、検査符号が変わる。 -/
theorem crc_detects_speed_bit_flip :
    [0, 0, 0, 1, 0].length = [0x2F, 0x00, 0xF4, 0x01, 0x20].length ∧
    (∃ b ∈ ([0, 0, 0, 1, 0] : Bytes), b ≠ 0) ∧
    (setBits [0, 0, 0, 1, 0]).card % 2 = 1 ∧
    crc (List.zipWith (· ^^^ ·) [0x2F, 0x00, 0xF4, 0x01, 0x20] [0, 0, 0, 1, 0]) ≠
      crc [0x2F, 0x00, 0xF4, 0x01, 0x20] :=
  ⟨rfl, by decide, by decide,
    crc_detects_errors _ _ rfl (by decide) (.inl (by decide))⟩

end TankDrive.Wire
