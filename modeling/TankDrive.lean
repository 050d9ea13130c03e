import TankDrive.Bench.Files
import TankDrive.Bench.Session
import TankDrive.Bench.Task
import TankDrive.Binary64.Basic
import TankDrive.Binary64.Integer
import TankDrive.Cli.Args
import TankDrive.Cli.Program
import TankDrive.CommandPlane
import TankDrive.Config
import TankDrive.Config.Json
import TankDrive.Controller.Basic
import TankDrive.Controller.Drive
import TankDrive.Controller.Link
import TankDrive.Decimal.Notation
import TankDrive.Decimal.Read
import TankDrive.Decimal.Shortest
import TankDrive.Device
import TankDrive.Json.Cursor
import TankDrive.Json.Error
import TankDrive.Json.Schema
import TankDrive.Json.Value
import TankDrive.Log
import TankDrive.Log.Pattern
import TankDrive.Main
import TankDrive.Messages
import TankDrive.Messages.Json
import TankDrive.Proofs.Binary64.Unpacked
import TankDrive.Proofs.Controller.Cleanup
import TankDrive.Proofs.Controller.Failures
import TankDrive.Proofs.Controller.Packets
import TankDrive.Proofs.Controller.Receive
import TankDrive.Proofs.Controller.Run
import TankDrive.Proofs.Telemetry.Carry
import TankDrive.Proofs.Telemetry.Stream
import TankDrive.Proofs.Throttle.Rest
import TankDrive.Proofs.Watchdog.Status
import TankDrive.Proofs.Watchdog.Trace
import TankDrive.Proofs.Wire.CrcDetection
import TankDrive.Proofs.Wire.CrcRemainder
import TankDrive.Proofs.Wire.RoundTrip
import TankDrive.Telemetry
import TankDrive.Throttle
import TankDrive.Track
import TankDrive.Unicode
import TankDrive.Watchdog
import TankDrive.Wire.Chunks
import TankDrive.Wire.Crc
import TankDrive.Wire.Hex
import TankDrive.Wire.Packet
