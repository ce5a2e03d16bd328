import PluginHost.Main
import PluginHost.Proofs.Registry.Isolation
import PluginHost.Proofs.Registry.Protocol
import PluginHost.Proofs.Registry.SingleProvider
import PluginHost.Registry.Broadcast
import PluginHost.Rehearsal.Bench
import PluginHost.Rehearsal.Journal
import PluginHost.Proofs.HostTable.Memory
import PluginHost.Proofs.Roster.Round
import PluginHost.Proofs.Path
import PluginHost.Proofs.Plugin.Attempt
import PluginHost.Proofs.Registry.Scan
import PluginHost.Proofs.Registry.Purpose
import PluginHost.Proofs.Registry.Identity
import PluginHost.Proofs.Registry.Rescan
import PluginHost.Proofs.Registry.Tick
import PluginHost.Proofs.Plugin.Standing
import PluginHost.Proofs.Plugin.Session
import PluginHost.Proofs.Roster.Arbitration
import PluginHost.Proofs.Roster.Notes
import PluginHost.Proofs.Registry.Notes
import PluginHost.Proofs.Registry.Permission
import PluginHost.Proofs.HostTable.Gate
import PluginHost.Proofs.Registry.Finite
import PluginHost.Proofs.Registry.Partial
import PluginHost.Proofs.Registry.Twins
import PluginHost.Proofs.Settings.Precedence
import PluginHost.Proofs.Installer.Agreement
import PluginHost.Proofs.Plugin.Lifecycle
import PluginHost.Proofs.Registry.Directive
import PluginHost.Proofs.Registry.Audio
import PluginHost.Proofs.Legacy.Caches
import PluginHost.Proofs.Plugin.Processes
import PluginHost.Proofs.Probe.Watch
import PluginHost.Proofs.FileSystem.Removal
import PluginHost.Proofs.Installer.Failure
import PluginHost.Proofs.LogFilter.PluginLines
import PluginHost.Proofs.Probe.Arguments
import PluginHost.Proofs.Installer.Frame
import PluginHost.Proofs.Registry.Uniqueness
import PluginHost.Proofs.Demo.Walk
import PluginHost.Proofs.Text.Wide
