import CameraAcquisition.Acquisition.Control
import CameraAcquisition.Acquisition.Interleaving
import CameraAcquisition.Acquisition.Params
import CameraAcquisition.Acquisition.Schedule
import CameraAcquisition.Acquisition.State
import CameraAcquisition.Acquisition.Worker
import CameraAcquisition.Bench
import CameraAcquisition.Bench.Step
import CameraAcquisition.Camera
import CameraAcquisition.CameraError
import CameraAcquisition.CommandLine.LogFilter
import CameraAcquisition.CommandLine.Mistake
import CameraAcquisition.CommandLine.Options
import CameraAcquisition.CommandLine.Parse
import CameraAcquisition.CommandLine.Program
import CameraAcquisition.CommandLine.Similarity
import CameraAcquisition.CommandLine.Workspace
import CameraAcquisition.Doc
import CameraAcquisition.Geometry
import CameraAcquisition.Geometry.Grid
import CameraAcquisition.Host
import CameraAcquisition.Host.Error
import CameraAcquisition.Host.Ring
import CameraAcquisition.Image
import CameraAcquisition.Image.Digest
import CameraAcquisition.Interface
import CameraAcquisition.Main
import CameraAcquisition.Pixel
import CameraAcquisition.Proofs.Acquisition.Balance
import CameraAcquisition.Proofs.Acquisition.Bookkeeping
import CameraAcquisition.Proofs.Acquisition.Calm
import CameraAcquisition.Proofs.Acquisition.Delivery
import CameraAcquisition.Proofs.Acquisition.Feeding
import CameraAcquisition.Proofs.Acquisition.Frames
import CameraAcquisition.Proofs.Acquisition.Operations
import CameraAcquisition.Proofs.Acquisition.Region
import CameraAcquisition.Proofs.Acquisition.Resources
import CameraAcquisition.Proofs.Acquisition.RunBooks
import CameraAcquisition.Proofs.Acquisition.RunParams
import CameraAcquisition.Proofs.Acquisition.Setup
import CameraAcquisition.Proofs.Acquisition.Status
import CameraAcquisition.Proofs.Acquisition.Steps
import CameraAcquisition.Proofs.Acquisition.Stopping
import CameraAcquisition.Proofs.Acquisition.TriggerMode
import CameraAcquisition.Proofs.Acquisition.Triggering
import CameraAcquisition.Proofs.Acquisition.WaitFailures
import CameraAcquisition.Proofs.Camera.Failures
import CameraAcquisition.Proofs.Camera.Region
import CameraAcquisition.Proofs.Camera.RegionCheck
import CameraAcquisition.Proofs.Camera.RegionOverflow
import CameraAcquisition.Proofs.Camera.RegionWrite
import CameraAcquisition.Proofs.Geometry.Snap
import CameraAcquisition.Proofs.Host.Ring
import CameraAcquisition.Proofs.Image.Bytes
import CameraAcquisition.Proofs.Sdk.AbortLatch
import CameraAcquisition.Proofs.Sdk.Consistency
import CameraAcquisition.Proofs.Sdk.Pauses
import CameraAcquisition.Proofs.Sdk.Region
import CameraAcquisition.Proofs.Sdk.Resources
import CameraAcquisition.Proofs.Sdk.Triggers
import CameraAcquisition.Proofs.Sdk.Wait
import CameraAcquisition.Reports
import CameraAcquisition.Sdk.Attr
import CameraAcquisition.Sdk.Blocking
import CameraAcquisition.Sdk.Code
import CameraAcquisition.Sdk.Device
import CameraAcquisition.Sdk.Frame
import CameraAcquisition.Sdk.Simulator
import CameraAcquisition.Settings
import CameraAcquisition.Settings.Load
import CameraAcquisition.Text.Alphanumeric
import CameraAcquisition.Text.Decimal
import CameraAcquisition.Text.Escape
import CameraAcquisition.Text.GraphemeExtend
import CameraAcquisition.Text.Pattern
import CameraAcquisition.Text.Pattern.Class
import CameraAcquisition.Text.Pattern.Escape
import CameraAcquisition.Text.Printable
import CameraAcquisition.Text.Reading
import CameraAcquisition.Text.WhiteSpace
import CameraAcquisition.Toml.Decode
import CameraAcquisition.Toml.Document
import CameraAcquisition.Toml.Error
import CameraAcquisition.Toml.Lexer
import CameraAcquisition.Word
