import PreimageSearch.Directory.Path

/-!
# Places

What a path can lead to: directories, files of the working directory, and the devices and streams
that every system has, by their usual paths.
-/

namespace PreimageSearch

/-- A directory. -/
inductive Folder where
  /-- The working directory, which is one of the temporary ones. -/
  | working
  /-- The directory to which these names lead from the root, the last one first. -/
  | absolute (names : List String)
  deriving DecidableEq, Repr

namespace Folder

def root : Folder := absolute []

def parent : Folder → Folder
  | working => absolute ["tmp"]
  | absolute names => absolute names.tail

/-- The text of the path with these names, the last one first. -/
def pathText (names : List String) : String :=
  "/" ++ "/".intercalate names.reverse

/-- The directory below the root in which a directory lies. -/
def top? : Folder → Option String
  | working => some "tmp"
  | absolute names => names.getLast?

/-- Whether names in a directory have a greatest length. Where the system makes up the entries, long
names are only unknown. -/
def limitsNames (folder : Folder) : Bool :=
  folder.top? ≠ some "proc" && folder.top? ≠ some "sys"

/-- Why no file can be made in a directory. The system's own directories take none. -/
def refusal (folder : Folder) : Option FileError :=
  if folder.top? = some "proc" then some .notFound
  else if folder.top? = some "sys" || folder = absolute ["pts", "dev"] then some .notPermitted
  else none

/-- The names that lead to the directory of the process. -/
def process : List String := ["self", "proc"]

/-- The names that lead to the directory of the thread. No part of a path is empty, so that there is
no other way to it than the link. -/
def thread : List String := "" :: "task" :: process

/-- The directories that every system has. -/
def standard : List String :=
  ["/boot", "/dev", "/dev/pts", "/dev/shm", "/etc", "/etc/alternatives", "/etc/apt", "/etc/default",
    "/etc/init.d", "/etc/opt", "/etc/pam.d", "/etc/profile.d", "/etc/security", "/etc/skel",
    "/home", "/media", "/mnt", "/opt", "/proc", "/proc/1", "/proc/bus", "/proc/driver", "/proc/fs",
    "/proc/irq", "/proc/self", "/proc/self/map_files", "/proc/self/task", "/proc/sys",
    "/proc/sys/fs", "/proc/sys/kernel", "/proc/sys/net", "/proc/sys/vm", "/proc/sysvipc",
    "/proc/tty", "/root", "/run", "/run/lock", "/srv", "/sys", "/sys/block", "/sys/bus",
    "/sys/class", "/sys/dev", "/sys/devices", "/sys/firmware", "/sys/fs", "/sys/kernel",
    "/sys/module", "/sys/power", "/tmp", "/usr", "/usr/bin", "/usr/games", "/usr/include",
    "/usr/lib", "/usr/lib64", "/usr/libexec", "/usr/local", "/usr/local/bin", "/usr/local/etc",
    "/usr/local/games", "/usr/local/include", "/usr/local/lib", "/usr/local/sbin",
    "/usr/local/share", "/usr/local/src", "/usr/sbin", "/usr/share", "/usr/src", "/var",
    "/var/backups", "/var/cache", "/var/lib", "/var/local", "/var/log", "/var/mail", "/var/opt",
    "/var/spool", "/var/tmp"]

end Folder

/-- A file outside the working directory: a way to a device or to a stream of the program, or one
that the system keeps. -/
inductive Device where
  /-- Always empty; what is written is lost. -/
  | null
  /-- Holds bytes without end; what is written is lost. -/
  | endless
  /-- Holds bytes without end and has no room. -/
  | full
  /-- The terminal of the program, which has none. -/
  | terminal
  /-- What the operator enters. -/
  | input
  /-- What the program prints. -/
  | output
  /-- The error output. -/
  | errors
  /-- The program itself. -/
  | program
  /-- Another program. -/
  | command
  /-- A text about the system, and why lines cannot be added to it. -/
  | record (failure : Option FileError)
  deriving DecidableEq, Repr

namespace Device

/-- Why a device does not open for appending. -/
def refusal : Device → Option FileError
  | terminal => some .noDevice
  | program => some .programRuns
  | _ => none

/-- Why a line cannot be written to a device that was opened. -/
def writeFailure : Device → Option FileError
  | full => some .noSpace
  | record failure => failure
  | _ => none

/-- What is read from a device, when `entered` is what the operator enters. What a text about the
system says is not known here, but it has no keys and values. -/
def read (entered : ByteArray) : Device → Except FileError ByteArray
  | null | output | errors => .ok ByteArray.empty
  | endless | full => .error .outOfMemory
  | terminal => .error .noDevice
  | input => .ok entered
  | program | command => .error .notText
  | record _ => .ok ":\n".toUTF8

end Device

/-- What a path leads to. -/
inductive Place where
  | folder (folder : Folder)
  /-- A file of the working directory. -/
  | file (name : String)
  | device (device : Device)
  /-- A name that nothing has yet. -/
  | free (folder : Folder) (name : String)
  deriving DecidableEq, Repr

namespace Place

/-- Files of one kind in a directory. -/
def filesIn (folder : String) (device : Device) (names : List String) : List (String × Place) :=
  names.map fun name => (folder ++ "/" ++ name, .device device)

/-- What the directories of the process and of the thread have in common. -/
def ofProcess (names : List String) : List (String × Place) :=
  let path := Folder.pathText names
  [(path ++ "/cwd", .folder .working), (path ++ "/root", .folder .root),
    (path ++ "/exe", .device .program), (path ++ "/fd/0", .device .input),
    (path ++ "/fd/1", .device .output), (path ++ "/fd/2", .device .errors)] ++
  ["attr", "fd", "fdinfo", "net", "ns"].map (fun name =>
    (path ++ "/" ++ name, .folder (.absolute (name :: names)))) ++
  filesIn path (.record none) ["comm", "sched"] ++
  filesIn path (.record (some .invalidArgument))
    ["auxv", "cgroup", "clear_refs", "cmdline", "cpuset", "environ", "io", "limits", "loginuid",
      "maps", "mountinfo", "mounts", "numa_maps", "oom_adj", "oom_score", "oom_score_adj",
      "pagemap", "personality", "schedstat", "sessionid", "setgroups", "smaps", "smaps_rollup",
      "stack", "stat", "statm", "status", "syscall", "wchan"] ++
  filesIn path (.record (some .inputOutput)) ["mem"]

/-- The files that every system has, and the links to directories. -/
def standard : List (String × Place) :=
  [("/bin", .folder (.absolute ["bin", "usr"])), ("/lib", .folder (.absolute ["lib", "usr"])),
    ("/lib64", .folder (.absolute ["lib64", "usr"])),
    ("/sbin", .folder (.absolute ["sbin", "usr"])),
    ("/var/run", .folder (.absolute ["run"])),
    ("/var/lock", .folder (.absolute ["lock", "run"])),
    ("/dev/fd", .folder (.absolute ("fd" :: Folder.process))),
    ("/dev/full", .device .full), ("/dev/null", .device .null),
    ("/dev/stderr", .device .errors), ("/dev/stdin", .device .input),
    ("/dev/stdout", .device .output), ("/dev/tty", .device .terminal),
    ("/proc/net", .folder (.absolute ("net" :: Folder.process))),
    ("/proc/thread-self", .folder (.absolute Folder.thread))] ++
  filesIn "/dev" .endless ["console", "ptmx", "random", "urandom", "zero"] ++
  filesIn "/etc" (.record none)
    ["debian_version", "fstab", "group", "gshadow", "host.conf", "hostname", "hosts", "issue",
      "ld.so.cache", "ld.so.conf", "login.defs", "nsswitch.conf", "os-release", "passwd", "profile",
      "resolv.conf", "shadow", "shells"] ++
  filesIn "/proc" (.record (some .inputOutput))
    ["buddyinfo", "cgroups", "cmdline", "consoles", "cpuinfo", "crypto", "devices", "diskstats",
      "execdomains", "filesystems", "interrupts", "iomem", "ioports", "kallsyms", "loadavg",
      "locks", "meminfo", "misc", "pagetypeinfo", "partitions", "slabinfo", "softirqs", "stat",
      "swaps", "timer_list", "uptime", "version", "vmallocinfo", "vmstat", "zoneinfo"] ++
  filesIn "/proc" (.record (some .invalidArgument)) ["mounts"] ++
  filesIn "/usr/bin" .command ["bash", "cat", "echo", "env", "false", "ls", "sh", "true"] ++
  ofProcess Folder.process ++ ofProcess Folder.thread

end Place

end PreimageSearch
