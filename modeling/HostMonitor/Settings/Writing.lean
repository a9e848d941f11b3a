import HostMonitor.Document.Basic
import HostMonitor.Settings.Basic

/-!
# Settings as documents

Every field under the name by which it is read, whether it is set or not.
-/

namespace HostMonitor

open Document (named)

def Thresholds.document (t : Thresholds Float) : Document :=
  named [("cpu_idle", .float t.cpuIdle), ("mem_free_mb", .float t.memFree),
    ("load_avg", .float t.loadAvg), ("nic_usage", .float t.nicUsage)]

def PlacementSettings.document (s : PlacementSettings) : Document :=
  named [("enabled", .ofOption .bool s.enabled),
    ("promote_nic_to_socket", .ofOption .bool s.promoteToSocket),
    ("cpuset_root", .ofOption .text s.cpusetRoot),
    ("cgroup_root", .ofOption .text s.cgroupRoot),
    ("blacklist", .ofOption .text s.blacklist)]

def Settings.document (s : Settings) : Document :=
  named [("interval_seconds", .ofOption (fun n => .integer n) s.intervalSeconds),
    ("proc_root", .ofOption .text s.procRoot), ("sys_root", .ofOption .text s.sysRoot),
    ("log_level", .ofOption .text s.logLevel),
    ("nic_interfaces", .ofOption (fun ps => .list (ps.map .text)) s.nicInterfaces),
    ("nic_max_throughput_percent", .ofOption .float s.nicMaxPercent),
    ("thresholds", s.thresholds.document), ("affinity", s.placement.document)]

end HostMonitor
