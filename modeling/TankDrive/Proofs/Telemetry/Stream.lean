import TankDrive.Proofs.Telemetry.Carry
/-!
# 流れとして届く telemetry

基板から届く byte の流れを任意の切れ目で chunk に分け、順に `Extractor.feed` に渡す
（後の状態は `Extractor.feedAll`、各回の電圧は `Extractor.readings`）。

* どの `feed` の後も、持ち越すのは空、`0xCD` 一つ、または印で始まる 15 byte 未満の未完の
  frame のどれか（`Carried`）で、完全な frame を持ち越すことはない。各回の電圧は、持ち越しと
  届いた byte をつないだ buffer の最初の frame の電圧である（`feedAll_carries_partial_frame`）。
* 流れの中の印どうしが 15 byte 以上離れていれば、`k` 回目の `feed` が返すのは、15 byte 目が
  `k` 番目の chunk に入る印のうち最初の印からの frame の電圧で、そのような印がなければ
  `none` である（`readings_report_completed_frames`）。chunk の境目をまたぐ frame はそれを
  完成させた回に読まれ、前の回に完成した frame が後の回に読まれることはない。

二つ目は、`b` byte 目までを足した後の持ち越しが流れの `[p, b)` で、`p` より前に始まる印が
ちょうど `b` までに frame の完成した印であること（`Tracks`）を、chunk ごとに保って示す。
-/

namespace TankDrive.Telemetry

open Wire

/-! ## chunk を順に足す -/

/-- chunk を順に足した後の切り出し。 -/
def Extractor.feedAll (x : Extractor) : List Bytes → Extractor
  | [] => x
  | c :: cs => (x.feed c).next.feedAll cs

/-- chunk を順に足したとき、各回の `feed` が返す電圧。 -/
def Extractor.readings (x : Extractor) : List Bytes → List (Option Float)
  | [] => []
  | c :: cs => (x.feed c).voltage :: (x.feed c).next.readings cs

@[simp] theorem Extractor.feedAll_nil (x : Extractor) : x.feedAll [] = x := rfl

@[simp] theorem Extractor.feedAll_cons (x : Extractor) (c : Bytes) (cs : List Bytes) :
    x.feedAll (c :: cs) = (x.feed c).next.feedAll cs := rfl

@[simp] theorem Extractor.readings_nil (x : Extractor) : x.readings [] = [] := rfl

@[simp] theorem Extractor.readings_cons (x : Extractor) (c : Bytes) (cs : List Bytes) :
    x.readings (c :: cs) = (x.feed c).voltage :: (x.feed c).next.readings cs := rfl

theorem Extractor.feedAll_append (x : Extractor) (cs ds : List Bytes) :
    x.feedAll (cs ++ ds) = (x.feedAll cs).feedAll ds := by
  induction cs generalizing x with
  | nil => rfl
  | cons c cs ih => exact ih _

theorem Extractor.readings_append (x : Extractor) (cs ds : List Bytes) :
    x.readings (cs ++ ds) = x.readings cs ++ (x.feedAll cs).readings ds := by
  induction cs generalizing x with
  | nil => rfl
  | cons c cs ih => simp only [List.cons_append, readings_cons, feedAll_cons, ih]

/-! ## 持ち越しの形 -/

/-- 持ち越しの形：空、印の前半 `0xCD` 一つ、または印で始まる 15 byte 未満の未完の frame。 -/
def Carried (p : Bytes) : Prop :=
  p = [] ∨ p = [markerHead] ∨ ∃ rest, p = markerHead :: markerTail :: rest ∧ p.length < frameLength

theorem Carried.length_lt {p : Bytes} (h : Carried p) : p.length < frameLength := by
  rcases h with rfl | rfl | ⟨rest, -, hlen⟩
  · decide
  · decide
  · exact hlen

/-- 持ち越しには完全な frame がない。 -/
theorem Carried.voltage?_eq_none {p : Bytes} (h : Carried p) : voltage? p = none := by
  rcases h with rfl | rfl | ⟨rest, rfl, hlen⟩
  · rfl
  · rfl
  · rw [voltage?_marker, frameVoltage?_eq_none_iff]
    exact hlen

/-- 印からの未完の frame がないときに持ち越す位置：最後の byte が印の前半 `0xCD` ならそこから、
でなければ何も持ち越さない。 -/
def tailFrom (rest : Bytes) : Nat :=
  if rest.getLast? = some markerHead then rest.length - 1 else rest.length

/-- 持ち越しの始まりは、最後の印からの未完の frame があればその印、なければ `tailFrom`。 -/
theorem keepFrom_eq (rest : Bytes) :
    keepFrom rest = match findLastMarker rest with
      | some last => if rest.length - last < frameLength then last else tailFrom rest
      | none => tailFrom rest := rfl

/-- `feed` の後の持ち越し：最初の完全な frame を消費した残りから、`keepFrom` の位置より後。 -/
theorem feed_next_pending (x : Extractor) (bytes : Bytes) :
    (x.feed bytes).next.pending =
      ((x.pending ++ bytes).drop (takeFrame (x.pending ++ bytes)).1).drop
        (keepFrom ((x.pending ++ bytes).drop (takeFrame (x.pending ++ bytes)).1)) := rfl

theorem carried_tail (rest : Bytes) : Carried (rest.drop (tailFrom rest)) := by
  unfold tailFrom
  split
  · rename_i hlast
    rw [drop_length_sub_one_of_getLast? hlast]
    exact .inr (.inl rfl)
  · rw [List.drop_length]
    exact .inl rfl

/-- 残りのうち持ち越す部分は、どんな残りでも `Carried` の形。 -/
theorem carried_drop_keepFrom (rest : Bytes) : Carried (rest.drop (keepFrom rest)) := by
  rw [keepFrom_eq]
  cases hl : findLastMarker rest with
  | none => exact carried_tail rest
  | some last =>
    dsimp only
    split
    · rename_i hshort
      obtain ⟨r, hr⟩ := findLastMarker_drop hl
      refine .inr (.inr ⟨r, hr, ?_⟩)
      rw [List.length_drop]
      exact hshort
    · exact carried_tail rest

/-- どの状態から `feed` しても、後の持ち越しは `Carried` の形。 -/
theorem feed_carried (x : Extractor) (bytes : Bytes) : Carried (x.feed bytes).next.pending :=
  carried_drop_keepFrom _

theorem Carried.feedAll {x : Extractor} (h : Carried x.pending) (cs : List Bytes) :
    Carried (x.feedAll cs).pending := by
  induction cs generalizing x with
  | nil => exact h
  | cons c cs ih => exact ih (feed_carried x c)

/-- 作ったばかりの切り出しにどう chunk を足しても、持ち越しは空、`0xCD` 一つ、または印で始まる
15 byte 未満の未完の frame で、完全な frame は持ち越さない。次の `feed` が返す電圧は、持ち越しと
届いた byte をつないだ buffer の最初の frame の電圧。 -/
theorem feedAll_carries_partial_frame (cs : List Bytes) (b : Bytes) :
    let x := ({} : Extractor).feedAll cs
    Carried x.pending ∧ x.pending.length < frameLength ∧ voltage? x.pending = none ∧
      (x.feed b).voltage = voltage? (x.pending ++ b) := by
  intro x
  have hx : Carried x.pending := Carried.feedAll (.inl rfl) cs
  exact ⟨hx, hx.length_lt, hx.voltage?_eq_none, feed_voltage x b⟩

/-! ## 印の位置 -/

/-- 列 `l` の位置 `j` から印 `0xCD 0xAB` が始まる。 -/
def MarkerAt (l : Bytes) (j : Nat) : Prop := l[j]? = some markerHead ∧ l[j + 1]? = some markerTail

instance (l : Bytes) (j : Nat) : Decidable (MarkerAt l j) := inferInstanceAs (Decidable (_ ∧ _))

@[simp] theorem markerAt_cons_succ (a : UInt8) (l : Bytes) (j : Nat) :
    MarkerAt (a :: l) (j + 1) ↔ MarkerAt l j := by
  simp [MarkerAt]

theorem markerAt_zero (a b : UInt8) (rest : Bytes) :
    MarkerAt (a :: b :: rest) 0 ↔ a = markerHead ∧ b = markerTail := by
  simp [MarkerAt]

theorem not_markerAt_singleton (a : UInt8) (j : Nat) : ¬MarkerAt [a] j := by
  rintro ⟨-, h⟩
  simp at h

theorem MarkerAt.add_two_le {l : Bytes} {j : Nat} (h : MarkerAt l j) : j + 2 ≤ l.length := by
  have := (List.getElem?_eq_some_iff.1 h.2).1
  omega

/-- `findMarker` は最初の印の位置を返す。 -/
theorem findMarker_eq_some_iff {l : Bytes} {i : Nat} :
    findMarker l = some i ↔ MarkerAt l i ∧ ∀ j < i, ¬MarkerAt l j := by
  induction l generalizing i with
  | nil => simp [findMarker, MarkerAt]
  | cons a l ih =>
    cases l with
    | nil => simp [findMarker, not_markerAt_singleton]
    | cons b rest =>
      by_cases hm : a = markerHead ∧ b = markerTail
      · have h0 : MarkerAt (a :: b :: rest) 0 := (markerAt_zero a b rest).2 hm
        rw [findMarker, if_pos hm, Option.some.injEq]
        constructor
        · rintro rfl
          exact ⟨h0, fun j hj => absurd hj (Nat.not_lt_zero j)⟩
        · rintro ⟨-, hmin⟩
          exact (Nat.eq_zero_of_not_pos fun hi => hmin 0 hi h0).symm
      · -- 先頭は印でないので、位置は後ろの列での位置より一つ後
        have h0 : ¬MarkerAt (a :: b :: rest) 0 := fun h => hm ((markerAt_zero a b rest).1 h)
        rw [findMarker, if_neg hm]
        cases i with
        | zero => simp [h0]
        | succ i =>
          simp only [Option.map_eq_some_iff, Nat.add_right_cancel_iff, exists_eq_right, ih,
            markerAt_cons_succ, Nat.forall_lt_succ_left, h0, not_false_eq_true, true_and]

/-- 印がないのは、ちょうど `findMarker` が `none` のとき。 -/
theorem findMarker_eq_none_iff {l : Bytes} : findMarker l = none ↔ ∀ j, ¬MarkerAt l j := by
  induction l with
  | nil => simp [findMarker, MarkerAt]
  | cons a l ih =>
    cases l with
    | nil => simp [findMarker, not_markerAt_singleton]
    | cons b rest =>
      by_cases hm : a = markerHead ∧ b = markerTail
      · rw [findMarker, if_pos hm]
        exact iff_of_false (by simp) fun h => h 0 ((markerAt_zero a b rest).2 hm)
      · rw [findMarker, if_neg hm, Option.map_eq_none_iff, ih]
        constructor
        · intro h j
          cases j with
          | zero => exact fun h0 => hm ((markerAt_zero a b rest).1 h0)
          | succ j => rw [markerAt_cons_succ]; exact h j
        · intro h j
          rw [← markerAt_cons_succ a]
          exact h (j + 1)

/-- 後ろの列で `i` 以降に印がなければ、先頭に byte を足した列では `i` より後に印がない。 -/
theorem not_markerAt_cons_of_le {a : UInt8} {l : Bytes} {i : Nat}
    (h : ∀ j, i ≤ j → ¬MarkerAt l j) : ∀ j, i < j → ¬MarkerAt (a :: l) j := by
  intro j hj
  obtain ⟨j, rfl⟩ : ∃ j', j = j' + 1 := ⟨j - 1, by omega⟩
  rw [markerAt_cons_succ]
  exact h j (by omega)

/-- `findLastMarker` は最後の印の位置を返す。 -/
theorem findLastMarker_eq_some_iff {l : Bytes} {i : Nat} :
    findLastMarker l = some i ↔ MarkerAt l i ∧ ∀ j, i < j → ¬MarkerAt l j := by
  induction l generalizing i with
  | nil => simp [findLastMarker, MarkerAt]
  | cons a l ih =>
    cases l with
    | nil => simp [findLastMarker, not_markerAt_singleton]
    | cons b rest =>
      rw [findLastMarker]
      cases hl : findLastMarker (b :: rest) with
      | some k =>
        -- 後ろの列に印があれば、最後の印はそこにある
        obtain ⟨hk, hmax⟩ := ih.1 hl
        simp only [Option.some.injEq]
        constructor
        · rintro rfl
          exact ⟨(markerAt_cons_succ a _ k).2 hk, not_markerAt_cons_of_le hmax⟩
        · rintro ⟨hi, himax⟩
          cases i with
          | zero => exact absurd ((markerAt_cons_succ a _ k).2 hk) (himax (k + 1) (Nat.succ_pos k))
          | succ i =>
            rw [markerAt_cons_succ] at hi
            have hik : ¬(i < k) := fun h => himax (k + 1) (by omega) ((markerAt_cons_succ a _ k).2 hk)
            have hki : ¬(k < i) := fun h => hmax i h hi
            omega
      | none =>
        -- 後ろの列に印がなければ、印は先頭だけにありうる
        have hnone : ∀ j, ¬MarkerAt (b :: rest) j :=
          findMarker_eq_none_iff.1 ((findLastMarker_eq_none_iff _).1 hl)
        dsimp only
        by_cases hm : a = markerHead ∧ b = markerTail
        · rw [if_pos hm]
          have h0 : MarkerAt (a :: b :: rest) 0 := (markerAt_zero a b rest).2 hm
          constructor
          · rintro ⟨⟩
            exact ⟨h0, not_markerAt_cons_of_le fun j _ => hnone j⟩
          · rintro ⟨hi, -⟩
            cases i with
            | zero => rfl
            | succ i => exact absurd ((markerAt_cons_succ a _ i).1 hi) (hnone i)
        · rw [if_neg hm]
          simp only [reduceCtorEq, false_iff, not_and]
          intro hi
          cases i with
          | zero => exact absurd ((markerAt_zero a b rest).1 hi) hm
          | succ i => exact absurd ((markerAt_cons_succ a _ i).1 hi) (hnone i)

/-! ## 流れの中の frame -/

/-- 流れ `s` の中の印どうしは、frame の長さ以上離れている。 -/
def MarkersSpaced (s : Bytes) : Prop :=
  ∀ m m', MarkerAt s m → MarkerAt s m' → m < m' → m + frameLength ≤ m'

/-- 印は流れの中にあるので、離れているかどうかは流れの長さまで調べればわかる。 -/
theorem markersSpaced_iff (s : Bytes) : MarkersSpaced s ↔ ∀ m < s.length, ∀ m' < s.length,
    MarkerAt s m → MarkerAt s m' → m < m' → m + frameLength ≤ m' := by
  constructor
  · intro h m _ m' _
    exact h m m'
  · intro h m m' hm hm'
    exact h m (by have := hm.add_two_le; omega) m' (by have := hm'.add_two_le; omega) hm hm'

instance (s : Bytes) : Decidable (MarkersSpaced s) := decidable_of_iff _ (markersSpaced_iff s).symm

/-- 流れ `s` の位置 `m` の印からの frame の電圧：5 byte 目からの 16 bit little endian を 100 で割る。 -/
def frameReading (s : Bytes) (m : Nat) : Float :=
  Binary64.ofNat ((s.getD (m + voltageOffset) 0).toNat +
    256 * (s.getD (m + voltageOffset + 1) 0).toNat) / unitsPerVolt

/-- 位置 `m` の印からの frame が、流れの `lo` byte 目までには完成しておらず、`hi` byte 目までに
完成する。つまり frame の 15 byte 目が `[lo, hi)` に入る。 -/
def Completes (s : Bytes) (lo hi m : Nat) : Prop :=
  MarkerAt s m ∧ lo < m + frameLength ∧ m + frameLength ≤ hi

instance (s : Bytes) (lo hi m : Nat) : Decidable (Completes s lo hi m) :=
  inferInstanceAs (Decidable (_ ∧ _ ∧ _))

/-- 15 byte 目が `[lo, hi)` に入る印のうち、最初のもの。 -/
def completedIn (s : Bytes) (lo hi : Nat) : Option Nat :=
  (List.range hi).find? fun m => decide (Completes s lo hi m)

/-- 最初の `k` 個の chunk の長さの和。`k` 番目の chunk は流れの `[boundary cs k, boundary cs (k + 1))`。 -/
def boundary (cs : List Bytes) (k : Nat) : Nat := (cs.take k).flatten.length

theorem Completes.lt {s : Bytes} {lo hi m : Nat} (h : Completes s lo hi m) : m < hi := by
  have := h.2.2
  unfold frameLength at this
  omega

theorem completedIn_eq_some_iff {s : Bytes} {lo hi m : Nat} :
    completedIn s lo hi = some m ↔ Completes s lo hi m ∧ ∀ j < m, ¬Completes s lo hi j := by
  simp only [completedIn, List.find?_range_eq_some, decide_eq_true_eq, List.mem_range,
    Bool.not_eq_eq_eq_not, Bool.not_true, decide_eq_false_iff_not]
  constructor
  · rintro ⟨hm, -, hmin⟩
    exact ⟨hm, hmin⟩
  · rintro ⟨hm, hmin⟩
    exact ⟨hm, hm.lt, hmin⟩

theorem completedIn_eq_none_iff {s : Bytes} {lo hi : Nat} :
    completedIn s lo hi = none ↔ ∀ m, ¬Completes s lo hi m := by
  simp only [completedIn, List.find?_range_eq_none, Bool.not_eq_eq_eq_not, Bool.not_true,
    decide_eq_false_iff_not]
  constructor
  · intro h m hm
    exact h m hm.lt hm
  · intro h m _
    exact h m

@[simp] theorem boundary_zero (cs : List Bytes) : boundary cs 0 = 0 := rfl

@[simp] theorem boundary_cons_succ (c : Bytes) (cs : List Bytes) (k : Nat) :
    boundary (c :: cs) (k + 1) = c.length + boundary cs k := by
  simp [boundary]

/-! ### 流れの一区間 -/

section Window

variable {s : Bytes} {p hi : Nat}

/-- 流れの `[p, hi)` の中の印は、流れの中で `hi` までに収まる印。 -/
theorem markerAt_window {i : Nat} :
    MarkerAt ((s.take hi).drop p) i ↔ MarkerAt s (p + i) ∧ p + i + 2 ≤ hi := by
  simp only [MarkerAt, List.getElem?_drop, List.getElem?_take, Nat.add_assoc]
  constructor
  · rintro ⟨h₁, h₂⟩
    split at h₁ <;> split at h₂ <;> first | cases h₁ | cases h₂ | exact ⟨⟨h₁, h₂⟩, by omega⟩
  · rintro ⟨⟨h₁, h₂⟩, hle⟩
    rw [if_pos (by omega), if_pos (by omega)]
    exact ⟨h₁, h₂⟩

/-- 区間 `[p, hi)` に収まる流れの印は、区間の中の印。 -/
theorem MarkerAt.window {m : Nat} (hm : MarkerAt s m) (hpm : p ≤ m) (h2 : m + 2 ≤ hi) :
    MarkerAt ((s.take hi).drop p) (m - p) :=
  markerAt_window.2 ⟨by rwa [Nat.add_sub_cancel' hpm], by omega⟩

theorem length_window (hhi : hi ≤ s.length) : ((s.take hi).drop p).length = hi - p := by
  simp [List.length_drop, List.length_take, Nat.min_eq_left hhi]

/-- 流れの `[p, hi)` の最後の byte は、流れの `hi - 1` byte 目。 -/
theorem getLast?_window (hhi : hi ≤ s.length) (hp : p < hi) :
    ((s.take hi).drop p).getLast? = s[hi - 1]? := by
  rw [List.getLast?_eq_getElem?, length_window hhi, List.getElem?_drop, List.getElem?_take,
    if_pos (by omega)]
  congr 1
  omega

/-- 完成した frame の電圧は、流れの中の位置から読める。 -/
theorem frameVoltage?_window (hhi : hi ≤ s.length) (hc : p + frameLength ≤ hi) :
    frameVoltage? ((s.take hi).drop p) = some (frameReading s p) := by
  have hget : ∀ j, p + j < hi → ((s.take hi).drop p).getD j 0 = s.getD (p + j) 0 := by
    intro j hj
    simp only [List.getD_eq_getElem?_getD, List.getElem?_drop, List.getElem?_take, if_pos hj]
  unfold frameVoltage?
  rw [if_neg (by rw [length_window hhi]; omega), hget _ (by simp only [voltageOffset, frameLength] at hc ⊢; omega),
    hget _ (by simp only [voltageOffset, frameLength] at hc ⊢; omega)]
  rfl

end Window

/-! ### 持ち越しと流れの位置 -/

/-- 流れ `s` の最初の `b` byte を足した切り出し `x` は `s` の `[p, b)` を持ち越していて、`p` より前に
始まる印は、ちょうど `b` byte 目までに frame が完成した印である。 -/
structure Tracks (s : Bytes) (b p : Nat) (x : Extractor) : Prop where
  bound : b ≤ s.length
  le : p ≤ b
  pending : x.pending = (s.take b).drop p
  split : ∀ m, MarkerAt s m → (m < p ↔ m + frameLength ≤ b)

theorem Tracks.start (s : Bytes) : Tracks s 0 0 {} where
  bound := Nat.zero_le _
  le := Nat.le_refl 0
  pending := by simp
  split m _ := iff_of_false (Nat.not_lt_zero m) (by unfold frameLength; omega)

/-- 切り出しが消費するのは、最初の印からの frame が完全なときのその終わりまでで、そうでなければ何も
消費しない。 -/
theorem takeFrame_fst (buf : Bytes) :
    (takeFrame buf).1 = 0 ∨ ∃ i, findMarker buf = some i ∧ frameLength ≤ buf.length - i ∧
      (takeFrame buf).1 = i + frameLength := by
  unfold takeFrame
  cases hf : findMarker buf with
  | none => exact .inl rfl
  | some i =>
    dsimp only
    split
    · exact .inr ⟨i, rfl, ‹_›, rfl⟩
    · exact .inl rfl

section Step

variable {s : Bytes} {b p hi : Nat}

/-- 持ち越しの始まり `p` より前の印が `b` までに完成した印なら、`[p, hi)` の最初の frame の電圧は、
15 byte 目が `[b, hi)` に入る最初の印からの frame の電圧。 -/
theorem voltage?_window (hhi : hi ≤ s.length)
    (hsplit : ∀ m, MarkerAt s m → (m < p ↔ m + frameLength ≤ b)) :
    voltage? ((s.take hi).drop p) = (completedIn s b hi).map (frameReading s) := by
  have hfl : frameLength = 15 := rfl
  -- `[b, hi)` で完成する印は、`p` より前にはないので区間の中にある
  have hinside : ∀ m, Completes s b hi m → p ≤ m ∧ MarkerAt ((s.take hi).drop p) (m - p) := by
    intro m ⟨hm, hlo, hmhi⟩
    have hpm : p ≤ m := Nat.le_of_not_lt fun h => absurd ((hsplit m hm).1 h) (by omega)
    exact ⟨hpm, hm.window hpm (by omega)⟩
  cases hf : findMarker ((s.take hi).drop p) with
  | none =>
    have hnone : completedIn s b hi = none :=
      completedIn_eq_none_iff.2 fun m hm => findMarker_eq_none_iff.1 hf _ (hinside m hm).2
    simp only [voltage?, hf, hnone, Option.map_none]
  | some i =>
    obtain ⟨hmi, hmin⟩ := findMarker_eq_some_iff.1 hf
    obtain ⟨his, -⟩ := markerAt_window.1 hmi
    rw [voltage?_of_findMarker hf, List.drop_drop]
    by_cases hc : p + i + frameLength ≤ hi
    · -- 最初の印の frame が完成していれば、それが `[b, hi)` で最初に完成する frame
      have hcomp : Completes s b hi (p + i) :=
        ⟨his, Nat.lt_of_not_le fun h => absurd ((hsplit _ his).2 h) (by omega), hc⟩
      have hfirst : completedIn s b hi = some (p + i) := by
        refine completedIn_eq_some_iff.2 ⟨hcomp, fun j hj hjc => ?_⟩
        obtain ⟨hpj, hjw⟩ := hinside j hjc
        exact hmin (j - p) (by omega) hjw
      rw [frameVoltage?_window hhi hc, hfirst]
      rfl
    · -- 最初の印の frame が未完なら、後の印の frame も未完
      have hnone : completedIn s b hi = none := by
        refine completedIn_eq_none_iff.2 fun m hm => ?_
        obtain ⟨hpm, hmw⟩ := hinside m hm
        have : i ≤ m - p := Nat.le_of_not_lt fun h => hmin _ h hmw
        exact hc (by have := hm.2.2; omega)
      rw [(frameVoltage?_eq_none_iff _).2 (by rw [length_window hhi]; omega), hnone]
      rfl

/-- 未完の frame を持ち越さないとき、区間 `[c, hi)` の中に収まる印がどれも `hi` までに完成して
いれば、持ち越しの始まりより前の印は、ちょうど `hi` までに完成した印。 -/
theorem tail_split {c : Nat} (hhi : hi ≤ s.length) (hc : c ≤ hi)
    (hdone : ∀ m, MarkerAt s m → m < c → m + frameLength ≤ hi)
    (hin : ∀ m, MarkerAt s m → m + 2 ≤ hi → m + frameLength ≤ hi) :
    c + tailFrom ((s.take hi).drop c) ≤ hi ∧
      ∀ m, MarkerAt s m → (m < c + tailFrom ((s.take hi).drop c) ↔ m + frameLength ≤ hi) := by
  have hfl : frameLength = 15 := rfl
  have hlen : ((s.take hi).drop c).length = hi - c := length_window hhi
  -- 持ち越しは `hi - 1` か `hi` から
  have hk : hi ≤ c + tailFrom ((s.take hi).drop c) + 1 ∧ c + tailFrom ((s.take hi).drop c) ≤ hi := by
    unfold tailFrom
    split <;> omega
  refine ⟨hk.2, fun m hm => ⟨fun hmk => ?_, fun hmf => by omega⟩⟩
  by_cases h2 : m + 2 ≤ hi
  · exact hin m hm h2
  · by_cases hmc : m < c
    · exact hdone m hm hmc
    · -- 区間の最後の byte から始まる印は、その `0xCD` を持ち越すので持ち越しの始まりより前にない
      exfalso
      have hlast : ((s.take hi).drop c).getLast? = some markerHead := by
        rw [getLast?_window hhi (by omega), show hi - 1 = m by omega]
        exact hm.1
      rw [tailFrom, if_pos hlast] at hmk
      omega

/-- 持ち越しの始まりより前の印は、ちょうど `hi` までに完成した印。残り `[c, hi)` の始まりより前の印が
`hi` までに完成していればよい。 -/
theorem keepFrom_split {c : Nat} (hs : MarkersSpaced s) (hhi : hi ≤ s.length) (hc : c ≤ hi)
    (hdone : ∀ m, MarkerAt s m → m < c → m + frameLength ≤ hi) :
    c + keepFrom ((s.take hi).drop c) ≤ hi ∧
      ∀ m, MarkerAt s m → (m < c + keepFrom ((s.take hi).drop c) ↔ m + frameLength ≤ hi) := by
  have hfl : frameLength = 15 := rfl
  have hlen : ((s.take hi).drop c).length = hi - c := length_window hhi
  rw [keepFrom_eq]
  cases hl : findLastMarker ((s.take hi).drop c) with
  | none =>
    -- 残りに印がなければ、`hi` までに収まる印はどれも `c` より前にある
    have hnone := findMarker_eq_none_iff.1 ((findLastMarker_eq_none_iff _).1 hl)
    refine tail_split hhi hc hdone fun m hm h2 => ?_
    by_cases hmc : m < c
    · exact hdone m hm hmc
    · exact absurd (hm.window (by omega) h2) (hnone (m - c))
  | some l =>
    obtain ⟨hlm, hmax⟩ := findLastMarker_eq_some_iff.1 hl
    obtain ⟨hls, hl2⟩ := markerAt_window.1 hlm
    -- 残りに収まる印は、最後の印 `c + l` 以前
    have hbefore : ∀ m, MarkerAt s m → m + 2 ≤ hi → c ≤ m → m ≤ c + l := fun m hm h2 hcm =>
      Nat.le_of_not_lt fun h =>
        hmax (m - c) (by omega) (hm.window hcm h2)
    dsimp only
    split
    · -- 最後の印の frame が未完なら、そこから持ち越す
      rename_i hshort
      rw [hlen] at hshort
      refine ⟨by omega, fun m hm => ⟨fun hml => ?_, fun hmf => Nat.lt_of_not_le fun hml => ?_⟩⟩
      · by_cases hmc : m < c
        · exact hdone m hm hmc
        · have := hs m (c + l) hm hls hml
          omega
      · rcases Nat.eq_or_lt_of_le hml with heq | hlt
        · omega
        · have := hbefore m hm (by omega) (by omega)
          omega
    · -- 最後の印の frame も完成していれば、残りに収まる印はどれも完成している
      rename_i hlong
      rw [hlen] at hlong
      refine tail_split hhi hc hdone fun m hm h2 => ?_
      by_cases hmc : m < c
      · exact hdone m hm hmc
      · rcases Nat.eq_or_lt_of_le (hbefore m hm h2 (by omega)) with heq | hlt
        · omega
        · have := hs m (c + l) hm hls hlt
          omega

/-- 最初の印 `p + i` の frame を消費したとき、その終わりより前に始まる印はどれも `hi` までに
完成している。間の印は、最初の印より前にも、最初の印の frame の中にもない。 -/
theorem consumed_done {i : Nat} (hs : MarkersSpaced s) (hbhi : b ≤ hi)
    (hsplit : ∀ m, MarkerAt s m → (m < p ↔ m + frameLength ≤ b))
    (hf : findMarker ((s.take hi).drop p) = some i) (hc : p + i + frameLength ≤ hi) :
    ∀ m, MarkerAt s m → m < p + i + frameLength → m + frameLength ≤ hi := by
  have hfl : frameLength = 15 := rfl
  intro m hm hlt
  obtain ⟨hmi, hmin⟩ := findMarker_eq_some_iff.1 hf
  obtain ⟨his, -⟩ := markerAt_window.1 hmi
  by_cases hmp : m < p
  · exact Nat.le_trans ((hsplit m hm).1 hmp) hbhi
  · rcases Nat.lt_trichotomy m (p + i) with h | h | h
    · exact absurd (hm.window (by omega) (by omega)) (hmin (m - p) (by omega))
    · rw [h]
      exact hc
    · exact absurd (hs _ _ his hm h) (by omega)

/-- 残り `[c, hi)` の始まりより前の印が `hi` までに完成していれば、そこから持ち越した切り出しは
`Tracks` を満たす。 -/
theorem Tracks.of_keepFrom {c : Nat} {x : Extractor} (hs : MarkersSpaced s) (hhi : hi ≤ s.length)
    (hc : c ≤ hi) (hdone : ∀ m, MarkerAt s m → m < c → m + frameLength ≤ hi)
    (hx : x.pending = ((s.take hi).drop c).drop (keepFrom ((s.take hi).drop c))) :
    Tracks s hi (c + keepFrom ((s.take hi).drop c)) x := by
  obtain ⟨hle, hsplit⟩ := keepFrom_split hs hhi hc hdone
  exact ⟨hhi, hle, by rw [hx, List.drop_drop], hsplit⟩

/-- 流れの続きの chunk `c` を足すと、電圧は 15 byte 目が `c` に入る最初の印からの frame の電圧になり、
`Tracks` は保たれる。 -/
theorem Tracks.feed {x : Extractor} (hs : MarkersSpaced s) (h : Tracks s b p x) {c post : Bytes}
    (hc : s.drop b = c ++ post) :
    (x.feed c).voltage = (completedIn s b (b + c.length)).map (frameReading s) ∧
      ∃ p', Tracks s (b + c.length) p' (x.feed c).next := by
  have hfl : frameLength = 15 := rfl
  have hhi : b + c.length ≤ s.length := by
    have := congrArg List.length hc
    simp only [List.length_drop, List.length_append] at this
    have := h.bound
    omega
  have hbuf : x.pending ++ c = (s.take (b + c.length)).drop p := by
    have htake : (s.take b).length = b := by simp [h.bound]
    rw [h.pending, List.take_add, hc, List.take_left,
      List.drop_append_of_le_length (by rw [htake]; exact h.le)]
  refine ⟨by rw [feed_voltage, hbuf]; exact voltage?_window hhi h.split, ?_⟩
  rcases takeFrame_fst ((s.take (b + c.length)).drop p) with h0 | ⟨i, hf, hlen, h1⟩
  · -- 何も消費しなければ、残りは `p` から
    refine ⟨_, Tracks.of_keepFrom hs hhi (by have := h.le; omega)
      (fun m hm hmp => Nat.le_trans ((h.split m hm).1 hmp) (by omega)) ?_⟩
    rw [feed_next_pending, hbuf, h0, List.drop_zero]
  · -- 最初の frame を消費すれば、残りはその終わりから
    rw [length_window hhi] at hlen
    refine ⟨_, Tracks.of_keepFrom hs hhi (by omega : p + (i + frameLength) ≤ b + c.length)
      (fun m hm hlt => consumed_done hs (by omega) h.split hf (by omega) m hm (by omega)) ?_⟩
    have hrest : ((s.take (b + c.length)).drop p).drop (i + frameLength) =
        (s.take (b + c.length)).drop (p + (i + frameLength)) := List.drop_drop
    rw [feed_next_pending, hbuf, h1, hrest]

/-- 流れの続きの chunk を順に足すと、`k` 回目の電圧は、15 byte 目が `k` 番目の chunk に入る最初の印
からの frame の電圧。 -/
theorem Tracks.readings {x : Extractor} (hs : MarkersSpaced s) (h : Tracks s b p x)
    (cs : List Bytes) {post : Bytes} (hpost : s.drop b = cs.flatten ++ post) :
    x.readings cs = (List.range cs.length).map fun k =>
      (completedIn s (b + boundary cs k) (b + boundary cs (k + 1))).map (frameReading s) := by
  induction cs generalizing b p x with
  | nil => rfl
  | cons c cs ih =>
    rw [List.flatten_cons, List.append_assoc] at hpost
    obtain ⟨hv, p', h'⟩ := h.feed hs hpost
    have hpost' : s.drop (b + c.length) = cs.flatten ++ post := by
      rw [← List.drop_drop, hpost, List.drop_left]
    rw [Extractor.readings_cons, hv, ih h' hpost', List.length_cons, List.range_succ_eq_map,
      List.map_cons, List.map_map]
    congr 1
    · simp [boundary]
    · refine List.map_congr_left fun k _ => ?_
      simp only [Function.comp_apply, Nat.succ_eq_add_one, boundary_cons_succ, Nat.add_assoc]

end Step

/-- 流れ `s` の中の印どうしが 15 byte 以上離れていれば、`s` をどう chunk に分けて作ったばかりの
切り出しに順に足しても、`k` 回目の `feed` が返すのは、15 byte 目が `k` 番目の chunk に入る印の
うち最初の印からの frame の電圧で、そのような印がなければ `none`。 -/
theorem readings_report_completed_frames (cs : List Bytes) (hs : MarkersSpaced cs.flatten) :
    ({} : Extractor).readings cs = (List.range cs.length).map fun k =>
      (completedIn cs.flatten (boundary cs k) (boundary cs (k + 1))).map (frameReading cs.flatten) := by
  have h := (Tracks.start cs.flatten).readings hs cs (by simp : cs.flatten.drop 0 = cs.flatten ++ [])
  simpa using h

/-- 雑音 2 byte の後の frame が 6 byte 目で切れて届くと、最初の回は `none`、frame を完成させた次の回に
その電圧を読む。 -/
theorem split_frame_read_on_completion :
    let cs : List Bytes :=
      [[0x55, 0x66, 0xCD, 0xAB, 0x01, 0xAE], [0x11, 0xAC, 0x0F, 0, 0, 0, 0, 0, 0, 0, 0]]
    MarkersSpaced cs.flatten ∧
      ({} : Extractor).readings cs = (List.range cs.length).map fun k =>
        (completedIn cs.flatten (boundary cs k) (boundary cs (k + 1))).map
          (frameReading cs.flatten) := by
  intro cs
  have hs : MarkersSpaced cs.flatten := by decide
  exact ⟨hs, readings_report_completed_frames cs hs⟩

end TankDrive.Telemetry
