import TankDrive.Binary64.Integer
/-!
# binary64 の値を開いて比べる

論理の中の `Float` は、bit pattern を `UnpackedFloat`（NaN、符号つき無限大、符号つき零、
有限値）に開いて、比較、`==`、四則演算を定めている（`Float.Model`）。ここではこの開いた形を
通して、制御器の証明が使う事実を示す。

* NaN でない二つの値は必ず比べられ、入れ替えると向きが逆になる（`compare_swap`）。
  したがって NaN でない `x` が `y` より小さくなければ `y ≤ x`（`le_of_not_lt`）。
* `x == 0.0` は `x` が符号つき零であることにちょうど同じ（`beq_zero_iff`）。
* 零 `z` について、`n + d * z` を整数に丸めた値は `z` の符号によらない
  （`toInt16_add_mul_zero`）。`+0.0` と `-0.0` とで積の符号は変わりうるが、積は零か NaN で、
  それを足した和は `n` そのものか、零か、NaN になるからである。
* 符号を変えても NaN かどうかは変わらない（`isNaN_neg`）。組み直した bit pattern を開くと、
  NaN を組んだときだけ NaN に読める（`isNaN_unpack_pack`）からである。
* NaN でない値は、開いて組み直すと元の値に戻る（`ofUnpacked_unpacked`）。したがって NaN でない
  値に零を足すと、元の値と `==` で等しい（`add_zero_beq`）。NaN はどの値とも等しくない
  （`nan_beq`）。
-/

namespace TankDrive.Binary64

open Float.Model Float.Model.UnpackedFloat

/-- `x` を開いた形。 -/
def unpacked (x : Float) : UnpackedFloat := x.toModel.unpack

/-- 開いた形から組み直した値。 -/
def ofUnpacked (u : UnpackedFloat) : Float := Float.ofModel (Float.Model.pack u)

/-! ## 比較 -/

theorem lt_iff {x y : Float} : x < y ↔ (unpacked x).compare (unpacked y) = some .lt := by
  show Float.lt x y = true ↔ _
  simp only [Float.lt, decide_eq_true_eq]
  show Float.Model.lt _ _ = true ↔ _
  simp [Float.Model.lt, UnpackedFloat.lt, unpacked]

theorem le_iff {x y : Float} : x ≤ y ↔ ((unpacked x).compare (unpacked y)).any (·.isLE) := by
  show Float.le x y = true ↔ _
  simp only [Float.le, decide_eq_true_eq]
  show Float.Model.le _ _ = true ↔ _
  simp [Float.Model.le, UnpackedFloat.le, unpacked]

theorem beq_eq (x y : Float) : (x == y) = ((unpacked x).compare (unpacked y) == some .eq) := rfl

theorem isNaN_eq (x : Float) : x.isNaN = (unpacked x).isNaN := rfl

theorem isFinite_eq (x : Float) : x.isFinite = (unpacked x).isFinite := rfl

theorem isNaN_of_isFinite {x : Float} (h : x.isFinite = true) : x.isNaN = false := by
  rw [isFinite_eq] at h
  rw [isNaN_eq]
  cases hu : unpacked x with
  | notANumber | infinity => rw [hu] at h; cases h
  | zero | finite => rfl

/-- 比較を入れ替えると、結果の向きが逆になる。 -/
theorem compare_swap (a b : UnpackedFloat) : b.compare a = (a.compare b).map Ordering.swap := by
  cases a with
  | notANumber => cases b <;> rfl
  | infinity s =>
    cases b with
    | notANumber => rfl
    | infinity t | zero t | finite t => cases s <;> cases t <;> rfl
  | zero s =>
    cases b with
    | notANumber => rfl
    | infinity t | zero t | finite t => cases s <;> cases t <;> rfl
  | finite s m e hm =>
    cases b with
    | notANumber => cases s <;> rfl
    | infinity t | zero t => cases s <;> cases t <;> rfl
    | finite t n f hn =>
      -- 同じ符号の有限値どうしは、指数、仮数の順に比べる
      cases s <;> cases t <;> dsimp only [UnpackedFloat.compare] <;>
        simp only [Option.map_some, Ordering.swap_then, Int.compare_swap, Nat.compare_swap] <;> rfl

/-- NaN でない値どうしは必ず比べられる。 -/
theorem compare_isSome {a b : UnpackedFloat} (ha : a.isNaN = false) (hb : b.isNaN = false) :
    ∃ o, a.compare b = some o := by
  cases a with
  | notANumber => cases ha
  | infinity s =>
    cases b with
    | notANumber => cases hb
    | infinity t | zero t | finite t => cases s <;> cases t <;> exact ⟨_, rfl⟩
  | zero s =>
    cases b with
    | notANumber => cases hb
    | infinity t | zero t | finite t => cases s <;> cases t <;> exact ⟨_, rfl⟩
  | finite s =>
    cases b with
    | notANumber => cases hb
    | infinity t | zero t | finite t => cases s <;> cases t <;> exact ⟨_, rfl⟩

/-- NaN でない `x` が `y` より小さくなければ、`y ≤ x`。 -/
theorem le_of_not_lt {x y : Float} (hx : x.isNaN = false) (hy : y.isNaN = false)
    (h : ¬x < y) : y ≤ x := by
  rw [isNaN_eq] at hx hy
  obtain ⟨o, ho⟩ := compare_isSome hx hy
  rw [lt_iff, ho] at h
  rw [le_iff, compare_swap, ho]
  cases o with
  | lt => exact absurd rfl h
  | eq | gt => rfl

/-- NaN でない値は自分と等しい。入れ替えても同じ比較なので、`lt` でも `gt` でもない。 -/
theorem compare_self_eq {u : UnpackedFloat} (h : u.isNaN = false) : u.compare u = some .eq := by
  obtain ⟨o, ho⟩ := compare_isSome h h
  have hs := compare_swap u u
  rw [ho] at hs ⊢
  cases o with
  | eq => rfl
  | lt | gt => cases hs

theorem beq_self_of_not_isNaN {x : Float} (h : x.isNaN = false) : (x == x) = true := by
  rw [beq_eq, compare_self_eq (show (unpacked x).isNaN = false from h)]
  rfl

/-! ## 零 -/

theorem unpacked_zero : unpacked 0.0 = .zero .positive := rfl

theorem unpacked_ofUnpacked_zero (s : Sign) : unpacked (ofUnpacked (.zero s)) = .zero s := by
  cases s <;> rfl

theorem unpacked_ofUnpacked_nan : unpacked (ofUnpacked .notANumber) = .notANumber := rfl

/-- NaN はどの値とも `==` で等しくない。 -/
theorem nan_beq (x : Float) : (ofUnpacked .notANumber == x) = false := by
  rw [beq_eq, unpacked_ofUnpacked_nan]
  rfl

/-- `x == 0.0` は、`x` が符号つき零のときちょうど成り立つ。 -/
theorem beq_zero_iff (x : Float) : (x == 0.0) = true ↔ ∃ s, unpacked x = .zero s := by
  rw [beq_eq, unpacked_zero]
  cases unpacked x with
  | notANumber => exact iff_of_false (by decide) (fun ⟨_, h⟩ => nomatch h)
  | infinity s => cases s <;> exact iff_of_false (by decide) (fun ⟨_, h⟩ => nomatch h)
  | zero s => exact iff_of_true (by cases s <;> decide) ⟨s, rfl⟩
  | finite s m e hm =>
    cases s <;> exact iff_of_false (by dsimp only [UnpackedFloat.compare]; decide)
      (fun ⟨_, h⟩ => nomatch h)

/-- 零の符号を変えても零。 -/
theorem unpacked_neg_zero {x : Float} {s : Sign} (h : unpacked x = .zero s) :
    unpacked (-x) = .zero (-s) := by
  show (Float.Model.pack (unpacked x).neg).unpack = _
  rw [h]
  cases s <;> rfl

theorem isNaN_of_zero {x : Float} {s : Sign} (h : unpacked x = .zero s) : x.isNaN = false := by
  rw [isNaN_eq, h]
  rfl

/-- 符号つき零を 16 bit の整数に丸めると 0。 -/
theorem toInt16_ofUnpacked_zero (s : Sign) : toInt16 (ofUnpacked (.zero s)) = 0 := by
  cases s <;> decide +kernel

/-! ## 零を掛けて足す -/

theorem mul_eq (x y : Float) :
    x * y = ofUnpacked (UnpackedFloat.mul .binary64 (unpacked x) (unpacked y)) := rfl

theorem add_eq (x y : Float) :
    x + y = ofUnpacked (UnpackedFloat.add .binary64 (unpacked x) (unpacked y)) := rfl

/-- 有限の値に零を掛けると零。 -/
theorem mul_zero_of_isFinite {d z : Float} {s : Sign} (hd : (unpacked d).isFinite = true)
    (hz : unpacked z = .zero s) : ∃ t, d * z = ofUnpacked (.zero t) := by
  rw [mul_eq, hz]
  cases h : unpacked d with
  | notANumber | infinity t => rw [h] at hd; cases hd
  | zero t | finite t => exact ⟨_, rfl⟩

/-- NaN か無限大に零を掛けると NaN。 -/
theorem mul_zero_of_not_isFinite {d z : Float} {s : Sign} (hd : (unpacked d).isFinite = false)
    (hz : unpacked z = .zero s) : d * z = ofUnpacked .notANumber := by
  rw [mul_eq, hz]
  cases h : unpacked d with
  | notANumber | infinity t => rfl
  | zero t | finite t => rw [h] at hd; cases hd

/-- NaN を足すと NaN。 -/
theorem add_nan (n : Float) : n + ofUnpacked .notANumber = ofUnpacked .notANumber := by
  rw [add_eq, unpacked_ofUnpacked_nan]
  cases unpacked n <;> rfl

/-- 零に零を足すと零。 -/
theorem add_zero_of_zero {n : Float} {s : Sign} (hn : unpacked n = .zero s) (t : Sign) :
    ∃ b, n + ofUnpacked (.zero t) = ofUnpacked (.zero b) := by
  rw [add_eq, unpacked_ofUnpacked_zero, hn]
  cases s <;> cases t <;> exact ⟨_, rfl⟩

/-- 零でない値に零を足しても、開いた形は変わらない。 -/
theorem add_zero_of_ne {n : Float} (hn : ∀ s, unpacked n ≠ .zero s) (t : Sign) :
    n + ofUnpacked (.zero t) = ofUnpacked (unpacked n) := by
  rw [add_eq, unpacked_ofUnpacked_zero]
  cases h : unpacked n with
  | zero s => exact absurd h (hn s)
  | notANumber | infinity | finite => rfl

/-- 零 `z` を掛けて足した `n + d * z` を整数に丸めた値は、`z` の符号によらない。 -/
theorem toInt16_add_mul_zero (n d : Float) {z₁ z₂ : Float} {s₁ s₂ : Sign}
    (h₁ : unpacked z₁ = .zero s₁) (h₂ : unpacked z₂ = .zero s₂) :
    toInt16 (n + d * z₁) = toInt16 (n + d * z₂) := by
  cases hd : (unpacked d).isFinite with
  | false => rw [mul_zero_of_not_isFinite hd h₁, mul_zero_of_not_isFinite hd h₂]
  | true =>
    obtain ⟨t₁, e₁⟩ := mul_zero_of_isFinite hd h₁
    obtain ⟨t₂, e₂⟩ := mul_zero_of_isFinite hd h₂
    rw [e₁, e₂]
    -- 和は `n` が零なら零、そうでなければ `n` そのもの
    by_cases hn : ∃ s, unpacked n = .zero s
    · obtain ⟨s, hs⟩ := hn
      obtain ⟨b₁, f₁⟩ := add_zero_of_zero hs t₁
      obtain ⟨b₂, f₂⟩ := add_zero_of_zero hs t₂
      rw [f₁, f₂, toInt16_ofUnpacked_zero, toInt16_ofUnpacked_zero]
    · have hn' : ∀ s, unpacked n ≠ .zero s := fun s h => hn ⟨s, h⟩
      rw [add_zero_of_ne hn' t₁, add_zero_of_ne hn' t₂]

/-! ## 符号を変える -/

/-- 指数部が全部 1 でない bit pattern は、NaN に読めない。 -/
theorem isNaN_unpack_of_exponent_ne {b : BitVec Format.binary64.numBits}
    (h : unpackExponent b ≠ -1#_) : (UnpackedFloat.unpack .binary64 b).isNaN = false := by
  delta UnpackedFloat.unpack
  dsimp only
  rw [if_neg h]
  by_cases h0 : unpackExponent b = 0#_
  · rw [if_pos h0]
    by_cases hm : unpackMantissa b = 0#_
    · rw [dif_pos hm]
      rfl
    · rw [dif_neg hm]
      rfl
  · rw [if_neg h0]
    rfl

/-- 組み直した値が NaN に読めるのは、NaN を組んだときだけ。正規化数の指数は全部 1 にならず、
非正規化数の指数は 0 で、大きすぎる指数は無限大になる。 -/
theorem isNaN_unpack_pack (u : UnpackedFloat) :
    (UnpackedFloat.unpack .binary64 (UnpackedFloat.pack .binary64 u)).isNaN = u.isNaN := by
  fun_cases UnpackedFloat.pack with
  | case1 => rfl
  | case2 s => cases s <;> rfl
  | case3 s => cases s <;> rfl
  | case4 s m e hm biased h => cases s <;> rfl
  | case5 s m e hm bits biased h₁ h₂ =>
    have hlt : biased < 2047 := by
      have : ¬2 ^ 11 ≤ biased + 1 := h₁
      omega
    have hne : BitVec.ofNat 11 biased ≠ -1#11 := fun heq => by
      have := congrArg BitVec.toNat heq
      rw [BitVec.toNat_ofNat, show (-1#11 : BitVec 11).toNat = 2047 from rfl] at this
      omega
    refine (isNaN_unpack_of_exponent_ne ?_).trans rfl
    rw [unpackExponent_packComponents]
    exact hne
  | case6 s m e hm bits biased h₁ h₂ =>
    refine (isNaN_unpack_of_exponent_ne ?_).trans rfl
    rw [unpackExponent_packComponents]
    decide

/-- 符号を変えても、NaN かどうかは変わらない。 -/
theorem isNaN_neg (x : Float) : (-x).isNaN = x.isNaN := by
  show (UnpackedFloat.unpack .binary64 (UnpackedFloat.pack .binary64 (unpacked x).neg)).isNaN =
    (unpacked x).isNaN
  rw [isNaN_unpack_pack]
  cases unpacked x <;> rfl

/-! ## 開いて組み直す -/

theorem sign_toBitVec_ofBitVec (v : BitVec 1) : (Sign.ofBitVec v).toBitVec = v := by
  unfold Sign.ofBitVec
  by_cases h : v = 0#1
  · rw [if_pos h, h]
    rfl
  · rw [if_neg h]
    revert h
    decide +revert

/-- 符号、指数、仮数の欄を読んで並べ直すと、元の bit pattern。 -/
theorem packComponents_unpack (b : BitVec Format.binary64.numBits) :
    packComponents _ (Sign.ofBitVec (unpackSign b)) (unpackExponent b) (unpackMantissa b) = b := by
  unfold packComponents
  rw [sign_toBitVec_ofBitVec]
  ext i hi
  delta unpackSign unpackExponent unpackMantissa
  simp only [BitVec.cast_eq]
  simp only [← BitVec.getLsbD_eq_getElem, BitVec.getLsbD_append, BitVec.getLsbD_extractLsb]
  simp only [Format.binary64, Format.numBits] at hi ⊢
  -- 下から仮数の 52 bit、指数の 11 bit、符号の 1 bit
  by_cases hm : i < 52
  · rw [if_pos (by omega), decide_eq_true (by omega), Bool.true_and, Nat.zero_add]
  · rw [if_neg (by omega)]
    by_cases he : i < 63
    · rw [if_pos (by omega), decide_eq_true (by omega), Bool.true_and]
      congr 1
      omega
    · rw [if_neg (by omega), decide_eq_true (by omega), Bool.true_and]
      congr 1
      omega

/-- NaN でない bit pattern は、開いて組み直すと元に戻る。開いた形の欄は組み直すときの欄そのもの
で、正規化数の仮数は隠れた bit を足してちょうど 53 bit になる。NaN は決まった NaN に組まれるので
除く。 -/
theorem pack_unpack {b : BitVec Format.binary64.numBits}
    (h : (UnpackedFloat.unpack Format.binary64 b).isNaN = false) :
    UnpackedFloat.pack Format.binary64 (UnpackedFloat.unpack Format.binary64 b) = b := by
  conv => rhs; rw [← packComponents_unpack b]
  delta UnpackedFloat.unpack at h ⊢
  dsimp only at h ⊢
  by_cases he : unpackExponent b = -1#_
  · rw [if_pos he] at h ⊢
    by_cases hm : unpackMantissa b = 0#_
    · rw [if_pos hm, he, hm]
      rfl
    · rw [if_neg hm] at h
      cases h
  · rw [if_neg he]
    by_cases h0 : unpackExponent b = 0#_
    · rw [if_pos h0]
      by_cases hm : unpackMantissa b = 0#_
      · rw [dif_pos hm, h0, hm]
        rfl
      · -- 非正規化数：指数の欄は 0 のまま、仮数は 52 bit に収まる
        rw [dif_neg hm]
        have hz : (unpackExponent b).toNat = 0 := by rw [h0]; rfl
        have hne : (unpackMantissa b).toNat ≠ 0 := fun h => hm (BitVec.eq_of_toNat_eq h)
        have hlog := (Nat.log2_lt hne).2 (unpackMantissa b).isLt
        delta UnpackedFloat.pack
        dsimp only
        rw [if_neg (by omega), if_neg (by unfold Format.mantissaBits; omega), h0,
          BitVec.ofNat_toNat, BitVec.setWidth_eq]
    · -- 正規化数：指数の欄は全部 1 でも 0 でもない
      rw [if_neg h0]
      have hmlt : (unpackMantissa b).toNat < 4503599627370496 := (unpackMantissa b).isLt
      have hlt : (unpackExponent b).toNat < 2047 := by
        have : (unpackExponent b).toNat < 2048 := (unpackExponent b).isLt
        have : (unpackExponent b).toNat ≠ 2047 := fun h => he (BitVec.eq_of_toNat_eq h)
        omega
      have hm : (1#1 ++ unpackMantissa b).toNat = 4503599627370496 + (unpackMantissa b).toNat := by
        rw [BitVec.toNat_append, ← Nat.shiftLeft_add_eq_or_of_lt hmlt]
        rfl
      have hlog : (1#1 ++ unpackMantissa b).toNat.log2 = 52 :=
        (Nat.log2_eq_iff (by omega)).2 ⟨by omega, by omega⟩
      delta UnpackedFloat.pack
      dsimp only
      rw [if_neg (by omega), if_pos (by rw [hlog]; rfl)]
      congr 1
      · apply BitVec.eq_of_toNat_eq
        rw [BitVec.toNat_ofNat]
        omega
      · apply BitVec.eq_of_toNat_eq
        rw [BitVec.toNat_ofNat, hm]
        omega

/-- NaN でない値は、開いて組み直すと元の値。 -/
theorem ofUnpacked_unpacked {x : Float} (h : x.isNaN = false) : ofUnpacked (unpacked x) = x := by
  obtain ⟨⟨bits, valid⟩⟩ := x
  have hp : UnpackedFloat.pack Format.binary64 (UnpackedFloat.unpack Format.binary64 bits.toBitVec) =
      bits.toBitVec := pack_unpack h
  have hb : (Float.Model.pack (UnpackedFloat.unpack Format.binary64 bits.toBitVec)).toBits = bits := by
    show UInt64.ofBitVec (UnpackedFloat.pack Format.binary64 _) = bits
    rw [hp, UInt64.ofBitVec_toBitVec]
  show Float.ofModel (Float.Model.pack (UnpackedFloat.unpack Format.binary64 bits.toBitVec)) = _
  -- 組み直した値の bit が同じなら、妥当性の証明は一つしかない
  generalize Float.Model.pack _ = m at hb ⊢
  cases m
  cases hb
  rfl

/-- NaN でない値に零を足すと、元の値と `==` で等しい。零どうしの和は符号が変わりうるが、
零は零と等しく、零でない値は組み直しても元の値のまま。 -/
theorem add_zero_beq {n : Float} (hn : n.isNaN = false) (t : Sign) :
    (n + ofUnpacked (.zero t) == n) = true := by
  by_cases hz : ∃ s, unpacked n = .zero s
  · obtain ⟨s, hs⟩ := hz
    obtain ⟨b, hb⟩ := add_zero_of_zero hs t
    rw [hb, beq_eq, unpacked_ofUnpacked_zero, hs]
    cases b <;> cases s <;> rfl
  · rw [add_zero_of_ne (fun s h => hz ⟨s, h⟩) t, ofUnpacked_unpacked hn, beq_self_of_not_isNaN hn]

end TankDrive.Binary64
