import TankDrive.Telemetry
/-!
# 持ち越しと一度に届いた場合

`Extractor.feed` が返す電圧は、持ち越した byte と届いた byte をつないだ buffer の最初の印からの
frame で決まる（`feed_voltage`）。電圧が読めなかった最初の `feed` の後に持ち越すのは、最後の印
からの未完の frame か、最後の `0xCD` か、空である（`feed_pending_of_none`）。

そのため、`a` で電圧が読めなかった後に `b` を足した結果が、`a ++ b` を一度に足した結果と
どの `b` でも同じになるのは、ちょうど `a` の最後の印が最初の印と同じ位置のときである
（`carry_matches_single_iff`）。`a` の未完の frame の中にもう一つ印があると、持ち越しは後の印から
になり、一度に届いた場合とは読む frame がずれる（`carry_drops_first_partial_frame`）。
-/

namespace TankDrive.Telemetry

open Wire

/-! ## 印を探す -/

theorem findMarker_marker (rest : Bytes) :
    findMarker (markerHead :: markerTail :: rest) = some 0 := by
  simp [findMarker]

/-- 先頭が印でなければ、印の位置は一つ後ろにずれる。 -/
theorem findMarker_cons_of_not {a : UInt8} {l : Bytes}
    (h : ¬(a = markerHead ∧ l.head? = some markerTail)) :
    findMarker (a :: l) = (findMarker l).map (· + 1) := by
  cases l with
  | nil => rfl
  | cons b rest =>
    simp only [List.head?_cons, Option.some.injEq] at h
    simp only [findMarker, if_neg h]

/-- 最初の印の位置から先は、印で始まる。 -/
theorem findMarker_drop {l : Bytes} {i : Nat} (h : findMarker l = some i) :
    ∃ rest, l.drop i = markerHead :: markerTail :: rest := by
  induction l generalizing i with
  | nil => cases h
  | cons a l ih =>
    cases l with
    | nil => cases h
    | cons b rest =>
      by_cases hm : a = markerHead ∧ b = markerTail
      · rw [findMarker, if_pos hm] at h
        cases h
        obtain ⟨rfl, rfl⟩ := hm
        exact ⟨rest, rfl⟩
      · rw [findMarker, if_neg hm] at h
        obtain ⟨j, hj, rfl⟩ := Option.map_eq_some_iff.1 h
        exact ih hj

/-- 最後の印の位置から先も、印で始まる。 -/
theorem findLastMarker_drop {l : Bytes} {i : Nat} (h : findLastMarker l = some i) :
    ∃ rest, l.drop i = markerHead :: markerTail :: rest := by
  induction l generalizing i with
  | nil => cases h
  | cons a l ih =>
    cases l with
    | nil => cases h
    | cons b rest =>
      rw [findLastMarker] at h
      cases hl : findLastMarker (b :: rest) with
      | some j =>
        rw [hl] at h
        cases h
        exact ih hl
      | none =>
        rw [hl] at h
        dsimp only at h
        split at h
        · rename_i hm
          cases h
          obtain ⟨rfl, rfl⟩ := hm
          exact ⟨rest, rfl⟩
        · cases h

/-- 後ろに byte を足しても、最初の印の位置は変わらない。 -/
theorem findMarker_append {a : Bytes} {i : Nat} (h : findMarker a = some i) (b : Bytes) :
    findMarker (a ++ b) = some i := by
  induction a generalizing i with
  | nil => cases h
  | cons x a ih =>
    cases a with
    | nil => cases h
    | cons y rest =>
      by_cases hm : x = markerHead ∧ y = markerTail
      · rw [findMarker, if_pos hm] at h
        rw [List.cons_append, List.cons_append, findMarker, if_pos hm, h]
      · rw [findMarker, if_neg hm] at h
        obtain ⟨j, hj, rfl⟩ := Option.map_eq_some_iff.1 h
        rw [List.cons_append, List.cons_append, findMarker, if_neg hm, ← List.cons_append, ih hj]
        rfl

/-- 最後の印があれば最初の印もあり、最初の印はそれより前にある。 -/
theorem findMarker_le_of_findLastMarker {l : Bytes} {j : Nat} (h : findLastMarker l = some j) :
    ∃ i, findMarker l = some i ∧ i ≤ j := by
  induction l generalizing j with
  | nil => cases h
  | cons a l ih =>
    cases l with
    | nil => cases h
    | cons b rest =>
      by_cases hm : a = markerHead ∧ b = markerTail
      · exact ⟨0, by rw [findMarker, if_pos hm], Nat.zero_le _⟩
      · -- 先頭が印でなければ、最後の印は後ろの列の中にある
        rw [findLastMarker] at h
        cases hl : findLastMarker (b :: rest) with
        | none =>
          rw [hl] at h
          simp [hm] at h
        | some k =>
          rw [hl] at h
          cases h
          obtain ⟨i, hi, hik⟩ := ih hl
          refine ⟨i + 1, ?_, by omega⟩
          rw [findMarker, if_neg hm, hi]
          rfl

/-- 最後の印がないのは、ちょうど印がないとき。 -/
theorem findLastMarker_eq_none_iff (l : Bytes) : findLastMarker l = none ↔ findMarker l = none := by
  induction l with
  | nil => exact iff_of_true rfl rfl
  | cons a l ih =>
    cases l with
    | nil => exact iff_of_true rfl rfl
    | cons b rest =>
      by_cases hm : a = markerHead ∧ b = markerTail
      · rw [findMarker, if_pos hm, findLastMarker]
        cases findLastMarker (b :: rest) <;> simp [hm]
      · rw [findMarker, if_neg hm, Option.map_eq_none_iff, ← ih, findLastMarker]
        cases findLastMarker (b :: rest) <;> simp [hm]

/-! ## 電圧を読む -/

theorem frameVoltage?_eq_none_iff (frame : Bytes) :
    frameVoltage? frame = none ↔ frame.length < frameLength := by
  unfold frameVoltage?
  split <;> simp_all

/-- buffer の電圧は、最初の印から先の frame の電圧。 -/
theorem voltage?_of_findMarker {l : Bytes} {i : Nat} (h : findMarker l = some i) :
    voltage? l = frameVoltage? (l.drop i) := by
  simp [voltage?, h]

theorem voltage?_marker (rest : Bytes) :
    voltage? (markerHead :: markerTail :: rest) = frameVoltage? (markerHead :: markerTail :: rest) :=
  voltage?_of_findMarker (findMarker_marker rest)

/-- 先頭が印でなければ、先頭の byte は電圧に関わらない。 -/
theorem voltage?_cons_of_not {a : UInt8} {l : Bytes}
    (h : ¬(a = markerHead ∧ l.head? = some markerTail)) : voltage? (a :: l) = voltage? l := by
  unfold voltage?
  rw [findMarker_cons_of_not h]
  cases findMarker l <;> rfl

/-- 切り出しが返す電圧は、buffer の最初の印からの電圧。frame が未完なら、どちらも `none`。 -/
theorem takeFrame_voltage (buf : Bytes) : (takeFrame buf).2 = voltage? buf := by
  unfold takeFrame
  cases h : findMarker buf with
  | none => simp [voltage?, h]
  | some start =>
    obtain ⟨rest, hrest⟩ := findMarker_drop h
    rw [voltage?_of_findMarker h]
    dsimp only
    split
    · rw [hrest, voltage?_marker]
    · rename_i hshort
      symm
      rw [frameVoltage?_eq_none_iff, List.length_drop]
      omega

/-- `feed` が返す電圧は、持ち越した byte と届いた byte をつないだ buffer の電圧。 -/
theorem feed_voltage (x : Extractor) (bytes : Bytes) :
    (x.feed bytes).voltage = voltage? (x.pending ++ bytes) := by
  rw [← takeFrame_voltage]
  rfl

/-! ## 持ち越し -/

theorem drop_length_sub_one_of_getLast? {l : Bytes} {x : UInt8} (h : l.getLast? = some x) :
    l.drop (l.length - 1) = [x] := by
  obtain ⟨ys, rfl⟩ := List.getLast?_eq_some_iff.1 h
  simp

/-- 空から `a` を足して電圧が読めなければ、持ち越すのは最後の印から先か、最後の `0xCD` か、空。 -/
theorem feed_pending_of_none {a : Bytes} (h : voltage? a = none) :
    (({} : Extractor).feed a).next.pending =
      match findLastMarker a with
      | some last => a.drop last
      | none => if a.getLast? = some markerHead then [markerHead] else [] := by
  -- 完全な frame はないので何も消費せず、残りは `a` 全体
  have htake : takeFrame a = (0, none) := by
    unfold takeFrame
    cases hf : findMarker a with
    | none => rfl
    | some s =>
      rw [voltage?_of_findMarker hf, frameVoltage?_eq_none_iff, List.length_drop] at h
      dsimp only
      rw [if_neg (by omega)]
  simp only [Extractor.feed, List.nil_append, htake, List.drop_zero]
  unfold keepFrom
  cases hl : findLastMarker a with
  | some last =>
    obtain ⟨s, hs, hsl⟩ := findMarker_le_of_findLastMarker hl
    rw [voltage?_of_findMarker hs, frameVoltage?_eq_none_iff, List.length_drop] at h
    dsimp only
    rw [if_pos (by omega)]
  | none =>
    dsimp only
    split
    · rename_i hlast
      rw [drop_length_sub_one_of_getLast? hlast]
    · simp

/-- 印のない `a` の後ろに `b` を足した電圧は、`a` の最後の `0xCD` だけを残して足した電圧と同じ。 -/
theorem voltage?_append_of_findMarker_none {a : Bytes} (h : findMarker a = none) (b : Bytes) :
    voltage? (a ++ b) =
      voltage? ((if a.getLast? = some markerHead then [markerHead] else []) ++ b) := by
  induction a with
  | nil => rfl
  | cons x a ih =>
    cases a with
    | nil =>
      by_cases hx : x = markerHead
      · simp [hx]
      · rw [List.getLast?_singleton, if_neg (by simpa using hx), List.nil_append,
          List.singleton_append, voltage?_cons_of_not (by simp [hx])]
    | cons y rest =>
      -- 先頭が印でないので読み飛ばし、残りの列で帰納法の仮定を使う
      have hm : ¬(x = markerHead ∧ y = markerTail) := by
        intro hm
        rw [findMarker, if_pos hm] at h
        cases h
      rw [findMarker, if_neg hm, Option.map_eq_none_iff] at h
      rw [List.cons_append, voltage?_cons_of_not (by simpa using hm), ih h,
        List.getLast?_cons_cons]

/-- 印の位置から先には 2 byte 以上ある。 -/
theorem add_two_le_length {a : Bytes} {i : Nat}
    (h : ∃ rest, a.drop i = markerHead :: markerTail :: rest) : i + 2 ≤ a.length := by
  obtain ⟨rest, hrest⟩ := h
  have := congrArg List.length hrest
  simp only [List.length_drop, List.length_cons] at this
  omega

/-- 印で始まる持ち越しに `b` を足した電圧は、その印から先の frame の電圧。 -/
theorem voltage?_drop_append {a : Bytes} {i : Nat}
    (h : ∃ rest, a.drop i = markerHead :: markerTail :: rest) (b : Bytes) :
    voltage? (a.drop i ++ b) = frameVoltage? ((a ++ b).drop i) := by
  have hi : i ≤ a.length := by
    have := add_two_le_length h
    omega
  obtain ⟨rest, hrest⟩ := h
  rw [List.drop_append_of_le_length hi, hrest]
  exact voltage?_marker (rest ++ b)

/-! ## 分けて届いた場合と一度に届いた場合 -/

/-- 空から `a` を足して電圧が読めなかったとき、続けて `b` を足した電圧がどの `b` でも `a ++ b` を
一度に足した電圧と同じになるのは、ちょうど `a` の最後の印が最初の印と同じ位置のとき（印が
ないときを含む）。後に別の印があれば、持ち越しはその印からになり、最初の印からの frame が
ちょうど完成する `b` で結果が分かれる。 -/
theorem carry_matches_single_iff (a : Bytes) (ha : (({} : Extractor).feed a).voltage = none) :
    (∀ b, ((({} : Extractor).feed a).next.feed b).voltage = (({} : Extractor).feed (a ++ b)).voltage) ↔
      findLastMarker a = findMarker a := by
  have hv : voltage? a = none := by simpa [feed_voltage] using ha
  simp only [feed_voltage, feed_pending_of_none hv, List.nil_append]
  cases hl : findLastMarker a with
  | none =>
    -- 印がなければ、最後の `0xCD` を持ち越せば足りる
    have hf : findMarker a = none := (findLastMarker_eq_none_iff a).1 hl
    rw [hf]
    exact iff_of_true (fun b => (voltage?_append_of_findMarker_none hf b).symm) rfl
  | some last =>
    obtain ⟨s, hs, hsl⟩ := findMarker_le_of_findLastMarker hl
    rw [hs]
    dsimp only
    have hshort : a.length - s < frameLength := by
      rwa [voltage?_of_findMarker hs, frameVoltage?_eq_none_iff, List.length_drop] at hv
    have hsingle : ∀ b, voltage? (a ++ b) = frameVoltage? ((a ++ b).drop s) :=
      fun b => voltage?_of_findMarker (findMarker_append hs b)
    have hsplit : ∀ b, voltage? (a.drop last ++ b) = frameVoltage? ((a ++ b).drop last) :=
      voltage?_drop_append (findLastMarker_drop hl)
    constructor
    · intro hall
      rcases Nat.lt_or_eq_of_le hsl with hlt | heq
      · -- 最初の印からの frame がちょうど完成するだけ足すと、後の印からの frame は未完
        exfalso
        have hsa := add_two_le_length (findMarker_drop hs)
        let b := List.replicate (frameLength - (a.length - s)) (0 : UInt8)
        have hb := hall b
        rw [hsplit, hsingle] at hb
        have hnone : frameVoltage? ((a ++ b).drop last) = none := by
          rw [frameVoltage?_eq_none_iff]
          simp only [b, List.length_drop, List.length_append, List.length_replicate]
          omega
        have hsome : frameVoltage? ((a ++ b).drop s) ≠ none := by
          rw [Ne, frameVoltage?_eq_none_iff]
          simp only [b, List.length_drop, List.length_append, List.length_replicate]
          omega
        exact hsome (hb ▸ hnone)
      · rw [heq]
    · intro heq b
      cases Option.some.inj heq
      rw [hsplit, hsingle]

/-- 未完の frame `0xCD 0xAB 0 0 0 0xCD 0xAB` の後に 13 byte が届くと、一度に届いた場合は最初の印
からの frame の電圧（439.81 V）を読むが、分けて届いた場合は後の印からの frame の電圧を読む。 -/
theorem carry_drops_first_partial_frame :
    let a : Bytes := [0xCD, 0xAB, 0x00, 0x00, 0x00, 0xCD, 0xAB]
    let b : Bytes := [0x01, 0x02, 0x03, 0x04, 0x05, 0x06, 0x07, 0x08, 0x09, 0x0A, 0x0B, 0x0C, 0x0D]
    (({} : Extractor).feed a).voltage = none ∧
    ((({} : Extractor).feed a).next.feed b).voltage ≠ (({} : Extractor).feed (a ++ b)).voltage := by
  intro a b
  have hbits : ((({} : Extractor).feed a).next.feed b).voltage.map Float.toBits ≠
      (({} : Extractor).feed (a ++ b)).voltage.map Float.toBits := by decide
  exact ⟨Option.isNone_iff_eq_none.1 (by decide), fun h => hbits (by rw [h])⟩

/-- 同じ `a` では最後の印が最初の印と違うので、どの `b` でも同じになるとは言えない。 -/
theorem carry_matches_single_iff_two_markers :
    let a : Bytes := [0xCD, 0xAB, 0x00, 0x00, 0x00, 0xCD, 0xAB]
    (({} : Extractor).feed a).voltage = none ∧
    ((∀ b, ((({} : Extractor).feed a).next.feed b).voltage = (({} : Extractor).feed (a ++ b)).voltage) ↔
      findLastMarker a = findMarker a) := by
  intro a
  have ha : (({} : Extractor).feed a).voltage = none := Option.isNone_iff_eq_none.1 (by decide)
  exact ⟨ha, carry_matches_single_iff a ha⟩

end TankDrive.Telemetry
