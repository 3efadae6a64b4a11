import GadgetModes.Catalog.Session
import GadgetModes.Config.Write
import GadgetModes.Main
import GadgetModes.MainLoop.Session
import GadgetModes.Mode.Description
import GadgetModes.Relay.Exchange
import GadgetModes.Relay.Session
import GadgetModes.Proofs.KeyFile.Lines
import GadgetModes.Proofs.KeyFile.LineReading
import GadgetModes.Proofs.KeyFile.Printing
import GadgetModes.Proofs.Host.Pipes
import GadgetModes.Proofs.Mode.LineFields
import GadgetModes.Proofs.Mode.RoundTrip
import GadgetModes.Proofs.MainLoop.Rounds
import GadgetModes.Proofs.MainLoop.Visits
import GadgetModes.Proofs.MainLoop.Neighbours
import GadgetModes.Proofs.MainLoop.Registry
import GadgetModes.Proofs.MainLoop.Runs
import GadgetModes.Proofs.Relay.Messages
import GadgetModes.Proofs.Relay.Histories
import GadgetModes.Proofs.Relay.WakeUps
import GadgetModes.Proofs.Relay.Rounds
import GadgetModes.Proofs.Relay.Streams
import GadgetModes.Proofs.Relay.SettingUp
import GadgetModes.Proofs.Relay.Wiring
import GadgetModes.Proofs.Relay.Invariant
import GadgetModes.Proofs.Relay.HandOff
import GadgetModes.Proofs.Relay.Aborts
import GadgetModes.Proofs.Relay.Attempts
import GadgetModes.Proofs.Relay.Processes
import GadgetModes.Proofs.Relay.Once
import GadgetModes.Proofs.Relay.Strangers
import GadgetModes.Proofs.Relay.Company
import GadgetModes.Proofs.Catalog.Lookup
import GadgetModes.Proofs.Catalog.Contents
import GadgetModes.Proofs.Catalog.Snapshots
import GadgetModes.Proofs.Catalog.Instances
import GadgetModes.Proofs.Catalog.Caches
import GadgetModes.Proofs.Daemon.Handler
import GadgetModes.Proofs.Daemon.Histories
import GadgetModes.Proofs.Daemon.AtWork
import GadgetModes.Proofs.Daemon.LifeCycle
import GadgetModes.Proofs.Toml.Strings
import GadgetModes.Proofs.Toml.Lines
import GadgetModes.Proofs.Config.RoundTrip
import GadgetModes.Proofs.KeyFile.StrayLines
import GadgetModes.Proofs.Mode.StrayLines
import GadgetModes.Proofs.Mode.Accepted
import GadgetModes.Proofs.Relay.Escalation
import GadgetModes.Proofs.Relay.Rollback
import GadgetModes.Proofs.Relay.Exchanges
import GadgetModes.Proofs.FileSystem.Reading
import GadgetModes.Proofs.Mode.Files
import GadgetModes.Proofs.Catalog.Reordering
import GadgetModes.Proofs.Toml.Keys
import GadgetModes.Proofs.Config.Overlay
import GadgetModes.Proofs.Config.Settings
import GadgetModes.Proofs.Mode.Flags
import GadgetModes.Proofs.Catalog.Accounts
