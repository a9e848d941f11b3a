import HostMonitor.File.Tree
import HostMonitor.Main
import HostMonitor.Proofs.File.Joining
import HostMonitor.Proofs.File.Listings
import HostMonitor.Proofs.File.Writing
import HostMonitor.Proofs.Interrupts
import HostMonitor.Proofs.Monitor.Consistency
import HostMonitor.Proofs.Monitor.FailedSamples
import HostMonitor.Proofs.Monitor.Traffic
import HostMonitor.Proofs.Monitor.Watching
import HostMonitor.Proofs.Nic.Commitment
import HostMonitor.Proofs.Placement.Blacklist
import HostMonitor.Proofs.Placement.ControlFiles
import HostMonitor.Proofs.Placement.NodeFiles
import HostMonitor.Proofs.Placement.Requests
import HostMonitor.Proofs.Placement.Sockets
import HostMonitor.Proofs.Latest
import HostMonitor.Proofs.Stat.Lines
import HostMonitor.Proofs.Stat.Reading
import HostMonitor.Proofs.Stat.RoundTrip
import HostMonitor.Proofs.Nic.History
import HostMonitor.Proofs.Nic.Resolution
import HostMonitor.Proofs.File.History
import HostMonitor.Proofs.Binary64.Normal
import HostMonitor.Proofs.Binary64.Rounding
import HostMonitor.Proofs.Cpu.Usage
import HostMonitor.Proofs.Placement.Interfaces
import HostMonitor.Proofs.Placement.Properties
import HostMonitor.Proofs.Nic.Decisions
import HostMonitor.Proofs.Nic.Headroom
import HostMonitor.Proofs.Placement.Containers
import HostMonitor.Proofs.CpuList.Marks
import HostMonitor.Proofs.Placement.Lists
import HostMonitor.Proofs.Placement.LargerBlacklists
import HostMonitor.Proofs.Placement.IgnoredDirectives
import HostMonitor.Proofs.Interrupts.Rows
import HostMonitor.Proofs.Placement.SocketLookup
import HostMonitor.Proofs.Cpu.Sums
import HostMonitor.Proofs.Cpu.Hotplug
import HostMonitor.Proofs.Nic.Rates
import HostMonitor.Proofs.Nic.Accounting
import HostMonitor.Proofs.Monitor.Grouping
import HostMonitor.Proofs.Nic.Attributes
import HostMonitor.Proofs.Monitor.Memory
import HostMonitor.Proofs.Nic.Discovery
import HostMonitor.Proofs.Memory.Counters
import HostMonitor.Proofs.Snapshots
import HostMonitor.Proofs.Monitor.Thresholds
import HostMonitor.Proofs.CpuList.Runs
import HostMonitor.Proofs.Placement.BlacklistSources
