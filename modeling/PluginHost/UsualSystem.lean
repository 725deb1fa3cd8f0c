import PluginHost.FileTree.Basic
import PluginHost.Library.Builtin
import PluginHost.Library.Head
import PluginHost.Library.Statements

/-!
# A usual system

The directories, links, devices, programs and libraries that are found on a usual system, as a file
tree.
-/

namespace PluginHost.UsualSystem

open PluginHost.Text

/-- The directory in which the system keeps its libraries. -/
def libraryDirectory : Bytes := Utf8.encode "/lib/x86_64-linux-gnu"

/-- The directory of the library that loads the others. -/
def loaderDirectory : Bytes := Utf8.encode "/lib64"

def directories : List String :=
  ["/boot", "/dev/mqueue", "/dev/pts", "/dev/shm", "/etc", "/home", "/media", "/mnt", "/opt",
    "/proc/1", "/proc/bus", "/proc/driver", "/proc/fs", "/proc/irq", "/proc/self/attr",
    "/proc/self/fd", "/proc/self/fdinfo", "/proc/self/map_files", "/proc/self/net",
    "/proc/self/ns", "/proc/self/task", "/proc/sys/fs", "/proc/sys/kernel", "/proc/sys/net",
    "/proc/sys/vm", "/proc/tty", "/root", "/run", "/srv", "/sys/block", "/sys/bus", "/sys/class",
    "/sys/dev", "/sys/devices", "/sys/firmware", "/sys/fs", "/sys/kernel", "/sys/module",
    "/sys/power", "/tmp", "/usr/bin", "/usr/include", "/usr/lib", "/usr/lib64", "/usr/local/bin",
    "/usr/local/lib", "/usr/sbin", "/usr/share", "/usr/src", "/var/cache", "/var/lib", "/var/log",
    "/var/spool", "/var/tmp"]

/-- Names that stand for others. Standard input is empty. -/
def links : List (String × String) :=
  [("/bin", "/usr/bin"), ("/sbin", "/usr/sbin"), ("/lib", "/usr/lib"), ("/lib64", "/usr/lib64"),
    ("/var/run", "/run"), ("/var/lock", "/run/lock"), ("/proc/thread-self", "/proc/self"),
    ("/proc/self/root", "/"), ("/proc/mounts", "/proc/self/mounts"),
    ("/proc/net", "/proc/self/net"), ("/dev/fd", "/proc/self/fd"),
    ("/proc/self/fd/0", "/dev/null"), ("/dev/stdin", "/dev/null")]

/-- The path of a name in a directory. -/
def pathIn (directory : Bytes) (name : String) : Bytes :=
  directory ++ Bytes.slash :: Utf8.encode name

/-- What is seen first of a device that gives bytes without an end. -/
def endless : Bytes := List.replicate 1024 0

/-- The first bytes of a program that can stand anywhere in memory: a head, a table of two segments,
and a dynamic section which says that it is a program. -/
def movableProgram : Bytes :=
  let number := Bytes.ofNumber
  let segment (kind start length : Nat) : Bytes :=
    number 4 kind ++ number 4 4 ++ [start, start, start, length, length, 8].flatMap (number 8)
  Library.Head.magic ++ [2, 1, 1, 0] ++ number 8 0 ++ number 2 3 ++ number 2 62 ++ number 4 1 ++
    [0, 64, 0].flatMap (number 8) ++ number 4 0 ++ [64, 56, 2, 64, 0, 0].flatMap (number 2) ++
    segment Library.Segment.loadedKind 0 208 ++ segment Library.Segment.dynamicKind 176 32 ++
    [Statements.moreFlags, Statements.programFlag, 0, 0].flatMap fun value => number 8 value.toNat

def programNames : List String :=
  ["bash", "cat", "chmod", "cp", "date", "dash", "echo", "env", "false", "grep", "head", "id", "ls",
    "mkdir", "mv", "perl", "rm", "sed", "sh", "sleep", "sort", "tail", "tar", "touch", "true",
    "uname", "wc"]

/-- A text for the linker, in a file that bears the name of a library. -/
def linkerText : Bytes :=
  Utf8.encode "/* GNU ld script\n*/\nOUTPUT_FORMAT(elf64-x86-64)\nGROUP ( /lib/x86_64-linux-gnu )\n"

/-- Texts about the system and the running program that are at least as long as a head. What they
say differs from system to system and is not modelled. -/
def longTexts : List String :=
  ["/etc/group", "/etc/ld.so.cache", "/etc/os-release", "/etc/passwd", "/etc/shadow",
    "/proc/cmdline", "/proc/cpuinfo", "/proc/devices", "/proc/filesystems", "/proc/interrupts",
    "/proc/meminfo", "/proc/partitions", "/proc/self/environ", "/proc/self/io",
    "/proc/self/limits", "/proc/self/maps", "/proc/self/mountinfo", "/proc/self/mounts",
    "/proc/self/mountstats", "/proc/self/sched", "/proc/self/smaps", "/proc/self/stat",
    "/proc/self/status", "/proc/stat", "/proc/version", "/proc/vmstat"]

/-- Such texts that are shorter than a head. -/
def shortTexts : List String :=
  ["/etc/hostname", "/proc/loadavg", "/proc/self/oom_score", "/proc/self/statm",
    "/proc/sys/kernel/hostname", "/proc/sys/kernel/osrelease", "/proc/uptime"]

/-- Which numbers of users or groups stand for which outside: all for themselves. -/
def numberMap : String := "         0          0 4294967295\n"

/-- Texts about the system and the running program that are the same everywhere. -/
def texts : List (String × String) :=
  [("/proc/self/coredump_filter", "00000033\n"), ("/proc/self/cpuset", "/\n"),
    ("/proc/self/gid_map", numberMap), ("/proc/self/loginuid", "4294967295"),
    ("/proc/self/oom_adj", "0\n"), ("/proc/self/oom_score_adj", "0\n"),
    ("/proc/self/personality", "00000000\n"), ("/proc/self/projid_map", numberMap),
    ("/proc/self/sessionid", "4294967295"), ("/proc/self/setgroups", "allow\n"),
    ("/proc/self/timerslack_ns", "50000\n"), ("/proc/self/uid_map", numberMap),
    ("/proc/self/wchan", "0"), ("/proc/sys/kernel/cap_last_cap", "40\n"),
    ("/proc/sys/kernel/ngroups_max", "65536\n"), ("/proc/sys/kernel/ostype", "Linux\n"),
    ("/proc/sys/kernel/overflowgid", "65534\n"), ("/proc/sys/kernel/overflowuid", "65534\n"),
    ("/proc/sys/kernel/randomize_va_space", "2\n"), ("/proc/sys/fs/pipe-max-size", "1048576\n")]

/-- What the system tells a program at its start: pairs of numbers. -/
def startNumbers : Bytes := [33, 51].flatMap fun tag => Bytes.ofNumber 8 tag ++ List.replicate 24 0

/-- What cannot be opened without a terminal, and what cannot be read. -/
def hindered : List (String × Entry) :=
  [("/dev/tty", .closed .noDevice), ("/proc/self/mem", .unreadable .unanswered),
    ("/proc/self/clear_refs", .unreadable .senseless)] ++
  ["cgroup", "ipc", "mnt", "net", "pid", "time", "user", "uts"].map fun name =>
    (s!"/proc/self/ns/{name}", .unreadable .senseless)

/-- A text of so many empty lines. -/
def emptyLines (count : Nat) : Bytes := List.replicate count Bytes.lineFeed

/-- Files by path. -/
def contents : List (String × Bytes) :=
  [("/dev/null", []), ("/dev/full", endless), ("/dev/zero", endless), ("/dev/random", endless),
    ("/dev/urandom", endless), ("/proc/self/auxv", startNumbers),
    ("/usr/lib/x86_64-linux-gnu/libc.so", linkerText),
    ("/usr/lib/x86_64-linux-gnu/libm.so", linkerText)] ++
  texts.map (fun text => (text.1, Utf8.encode text.2)) ++
  longTexts.map (·, emptyLines Library.Head.length) ++ shortTexts.map (·, emptyLines 1) ++
  programNames.map fun name => (s!"/usr/bin/{name}", movableProgram)

/-- Store the library that loads the others, which is found in two directories. -/
def putLoader (tree : FileTree) : FileTree :=
  let path := pathIn libraryDirectory Library.loaderName
  (tree.putLibrary path Library.loader).putLink (pathIn loaderDirectory Library.loaderName) path

def files : FileTree :=
  let tree : FileTree := ⟨[], [], []⟩
  let tree := links.foldl
    (fun tree link => tree.putLink (Utf8.encode link.1) (Utf8.encode link.2)) tree
  let tree := directories.foldl (fun tree path => tree.putDirectory (Utf8.encode path)) tree
  let tree := contents.foldl (fun tree file => tree.putFile (Utf8.encode file.1) file.2) tree
  let tree := Library.system.foldl
    (fun tree entry => tree.putLibrary (pathIn libraryDirectory entry.1) entry.2) tree
  let tree := hindered.foldl
    (fun tree entry => tree.putAt (tree.place (Utf8.encode entry.1)) entry.2) tree
  putLoader tree

end PluginHost.UsualSystem
