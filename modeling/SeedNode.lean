import SeedNode.Config.Draft
import SeedNode.Identity.Curve25519
import SeedNode.Main
import SeedNode.Proofs.Effects
import SeedNode.Proofs.Files.Walk
import SeedNode.Proofs.Files.Changes
import SeedNode.Proofs.Files.Ending
import SeedNode.Proofs.Identity.Saving
import SeedNode.Proofs.Identity.Establishing
import SeedNode.Proofs.Identity.Stability
import SeedNode.Proofs.Seeds.Contacting
import SeedNode.Proofs.Startup.Networking
import SeedNode.Proofs.Engine.Loading
import SeedNode.Proofs.Config.Resolving
import SeedNode.Proofs.Startup.Stages
import SeedNode.Proofs.Startup.Pipeline
import SeedNode.Proofs.Loop.Script
import SeedNode.Proofs.Loop.Rounds
import SeedNode.Proofs.Loop.Broadcasts
import SeedNode.Proofs.Loop.Keeping
import SeedNode.Proofs.Loop.Connection
import SeedNode.Proofs.Startup.Fallback
import SeedNode.Proofs.Config.Lookups
import SeedNode.Proofs.Config.Provenance
import SeedNode.Proofs.Toml.Limits
import SeedNode.Proofs.Startup.SettingsFile
import SeedNode.Proofs.Identity.Privacy
import SeedNode.Proofs.Identity.Reporting
import SeedNode.Proofs.Numeric.Writing
import SeedNode.Proofs.Config.LongIntegers
import SeedNode.Proofs.Config.Motd
import SeedNode.Proofs.Config.Settling
import SeedNode.Proofs.Text.Hex
import SeedNode.Proofs.Text.Utf8
import SeedNode.Proofs.Seeds.PublicKeys
import SeedNode.Proofs.Seeds.LongIntegers
import SeedNode.Proofs.Seeds.Queueing
import SeedNode.Proofs.Daemon.PidFile
import SeedNode.Proofs.Daemon.Forking
import SeedNode.Proofs.Daemon.Logging
import SeedNode.Proofs.Daemon.Running
import SeedNode.Proofs.Log.Delivery
import SeedNode.Proofs.Log.Ownership
import SeedNode.Proofs.Environment.Caching
import SeedNode.Proofs.Secrecy.Agreement
import SeedNode.Proofs.Secrecy.Contents
import SeedNode.Proofs.Secrecy.Outside
import SeedNode.Proofs.Secrecy.Establishing
import SeedNode.Proofs.Secrecy.Stages
import SeedNode.Proofs.Secrecy.Startup
import SeedNode.Proofs.Startup.Announcing
import SeedNode.Proofs.Seeds.Resuming
import SeedNode.Proofs.Config.RelayPorts
import SeedNode.Proofs.Seeds.Checking
import SeedNode.Proofs.Config.Admissible
import SeedNode.Proofs.Startup.Admission
import SeedNode.Proofs.Identity.Decoding
import SeedNode.Proofs.Loop.Preparing
import SeedNode.Proofs.Engine.Selecting
import SeedNode.Proofs.Daemon.Naming
import SeedNode.Proofs.Daemon.Reporting
import SeedNode.Proofs.Json.Reader
import SeedNode.Proofs.Log.Configuring
import SeedNode.Proofs.Json.RoundTrip
import SeedNode.Proofs.Log.Lines
import SeedNode.Proofs.Log.SingleLines
import SeedNode.Proofs.Config.SingleLines
import SeedNode.Proofs.Seeds.SingleLines
import SeedNode.Proofs.Numeric.Rounding
import SeedNode.Proofs.Numeric.Nearest
import SeedNode.Proofs.Environment.Intervals
import SeedNode.Proofs.Startup.Cadence
import SeedNode.Proofs.Daemon.Descriptors
