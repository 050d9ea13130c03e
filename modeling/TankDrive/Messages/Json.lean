import TankDrive.Messages
import TankDrive.Json.Schema
/-!
# 指令と知らせの JSON の形

走行の指令は欠けた側を 0 とし、停止の要求は中身を持たない。状態の知らせは三つの field が
すべて要る。列挙（健康状態、watchdog の状態、履帯の側）は小文字の名前で書き、読むときは
`{"名前": null}` の形も受ける。
-/

namespace TankDrive

open Json Json.Reader

/-- 走行の指令の JSON の形。 -/
def DriveCommand.form : Record DriveCommand where
  name := "MotorCommand"
  fields := [⟨"left", fun c => do pure { c with left := ← float }⟩,
    ⟨"right", fun c => do pure { c with right := ← float }⟩]
  start := {}
  defaults := true

/-- 走行の指令の JSON。 -/
def DriveCommand.toJson (c : DriveCommand) : Value :=
  .object [("left", .ofFloat c.left), ("right", .ofFloat c.right)]

/-- 停止の要求の JSON の形。 -/
def StopRequest.form : Record StopRequest where
  name := "StopCommand"
  fields := []
  start := {}
  defaults := false

/-- 停止の要求の JSON。 -/
def StopRequest.toJson (_ : StopRequest) : Value := .object []

/-- 健康状態の名前の並び。 -/
def Health.keys : List String := ["ok", "cmd_stale", "link_down"]

/-- 健康状態を読む。 -/
def Health.read : Reader Health := do
  match ← unitEnum Health.keys with
  | 0 => pure .ok
  | 1 => pure .cmdStale
  | _ => pure .linkDown

/-- watchdog の状態を読む。 -/
def Alarm.read : Reader Alarm := do
  match ← unitEnum ["armed", "tripped"] with
  | 0 => pure .armed
  | _ => pure .tripped

/-- 履帯の側を読む。 -/
def Track.read : Reader Track := do
  match ← unitEnum ["left", "right"] with
  | 0 => pure .left
  | _ => pure .right

/-- 状態の知らせの JSON の形。 -/
def DriveStatus.form : Record DriveStatus where
  name := "DriveStatus"
  fields := [⟨"voltage", fun s => do pure { s with voltage := ← float }⟩,
    ⟨"stopped", fun s => do pure { s with stopped := ← bool }⟩,
    ⟨"health", fun s => do pure { s with health := ← Health.read }⟩]
  start := ⟨0.0, false, .ok⟩
  defaults := false

/-- 状態の知らせの JSON。 -/
def DriveStatus.toJson (s : DriveStatus) : Value :=
  .object [("voltage", .ofFloat s.voltage), ("stopped", .bool s.stopped),
    ("health", .string s.health.key)]

end TankDrive
