import TankDrive.Config
import TankDrive.Json.Schema
/-!
# 設定の JSON の形

設定は object（または field の順の配列）で、どの field も欠けてよい。知らない key は
読み飛ばす。片側の設定は範囲の三つの値と `inverted` を同じ object に並べる（object のみ）。
範囲の値は、片側の object を読み終えてから集めた組の中から探すので、その誤りの位置は
片側の object の閉じ括弧の後になる。

書き出しは field を宣言の順に、空白なしで書く。
-/

namespace TankDrive

open Json Json.Reader

namespace Throttle.Range

/-- 範囲の JSON の形。 -/
def form : Record Range where
  name := "ThrottleMap"
  fields := [⟨"min", fun r => do pure { r with min := ← float }⟩,
    ⟨"neutral", fun r => do pure { r with neutral := ← float }⟩,
    ⟨"max", fun r => do pure { r with max := ← float }⟩]
  start := Range.default
  defaults := true

/-- 集めた値を binary64 として読む。 -/
def floatOf (v : Value) : Except Problem Float :=
  match v with
  | .number n => .ok n.toFloat
  | v => .error (.invalidType v.unexpected "f64")

/-- 集めた組から範囲を読む。名前の合う組を順に使い、同じ名前が二度あれば誤り。 -/
def ofEntries : List (String × Value) → List String → Range → Except Problem Range
  | [], _, r => .ok r
  | (k, v) :: rest, seen, r =>
    if k = "min" ∨ k = "neutral" ∨ k = "max" then
      if seen.contains k then .error (.duplicateField k)
      else do
        let x ← floatOf v
        let r' := if k = "min" then { r with min := x }
          else if k = "neutral" then { r with neutral := x } else { r with max := x }
        ofEntries rest (k :: seen) r'
    else ofEntries rest seen r

/-- 範囲の JSON。 -/
def toJson (r : Range) : Value :=
  .object [("min", .ofFloat r.min), ("neutral", .ofFloat r.neutral), ("max", .ofFloat r.max)]

end Throttle.Range

namespace TrackConfig

/-- 片側の設定の、範囲を除いた JSON の形。 -/
def form : Record TrackConfig where
  name := "SideConfig"
  fields := [⟨"inverted", fun c => do pure { c with inverted := ← bool }⟩]
  start := {}
  defaults := true

/-- 片側の設定を読む。 -/
def read : Reader TrackConfig :=
  form.readCollecting fun c extra =>
    match Throttle.Range.ofEntries extra [] Throttle.Range.default with
    | .ok r => pure { c with range := r }
    | .error p => raise p

/-- 片側の設定の JSON。 -/
def toJson (c : TrackConfig) : Value :=
  .object [("min", .ofFloat c.range.min), ("neutral", .ofFloat c.range.neutral),
    ("max", .ofFloat c.range.max), ("inverted", .bool c.inverted)]

end TrackConfig

namespace Config

/-- 設定の JSON の形。 -/
def form : Record Config where
  name := "DriveConfig"
  fields := [⟨"port", fun c => do pure { c with device := ← str }⟩,
    ⟨"baudrate", fun c => do pure { c with baud := ← u32 }⟩,
    ⟨"deadline_ms", fun c => do pure { c with deadlineMs := ← u64 }⟩,
    ⟨"poll_ms", fun c => do pure { c with pollMs := ← u64 }⟩,
    ⟨"settle_ms", fun c => do pure { c with settleMs := ← u64 }⟩,
    ⟨"left", fun c => do pure { c with left := ← TrackConfig.read }⟩,
    ⟨"right", fun c => do pure { c with right := ← TrackConfig.read }⟩]
  start := {}
  defaults := true

/-- 設定の文字列を、数を `conversion` の方法で binary64 にしながら読む。 -/
def parseWith (conversion : Json.Conversion) (text : String) : Except Json.Error Config :=
  Reader.parseWith conversion form.read text

/-- 設定の文字列を読む。数は最も近い binary64 にする。 -/
def parse (text : String) : Except Json.Error Config := parseWith .nearest text

/-- 読み終えた JSON の値から設定を読む。 -/
def ofValue (v : Value) : Except Json.Error Config := Reader.parseValue form.read v

/-- 設定の JSON。 -/
def toJson (c : Config) : Value :=
  .object [("port", .string c.device), ("baudrate", .ofNat c.baud),
    ("deadline_ms", .ofNat c.deadlineMs), ("poll_ms", .ofNat c.pollMs),
    ("settle_ms", .ofNat c.settleMs), ("left", c.left.toJson), ("right", c.right.toJson)]

end Config

end TankDrive
