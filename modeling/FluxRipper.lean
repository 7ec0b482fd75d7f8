import FluxRipper.Python
import FluxRipper.Console.Reader
import FluxRipper.Console.Link
import FluxRipper.Console.Isolation
import FluxRipper.Console.Healthy
import FluxRipper.Console.Register
import FluxRipper.DevLoop.World
import FluxRipper.DevLoop.TestRunner
import FluxRipper.DevLoop.Workers
import FluxRipper.DevLoop.RtlBuilder
import FluxRipper.DevLoop.Watch
import FluxRipper.DevLoop.SourceHash
import FluxRipper.DevLoop.Deploy
import FluxRipper.DevLoop.Verdicts
import FluxRipper.RtlTools.Incremental
import FluxRipper.Bios.RomSum
import FluxRipper.Bios.RomInfo
import FluxRipper.RtlTools.Simulation
import FluxRipper.HwTests.Program
import FluxRipper.HwTests.Memory
import FluxRipper.DevLoop.RemoteBuild
import FluxRipper.DevLoop.FileWatcher
import FluxRipper.DevLoop.Interactive
import FluxRipper.HwTests.Link
import FluxRipper.DevLoop.Session
