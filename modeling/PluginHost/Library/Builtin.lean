import PluginHost.Library.Answers
import PluginHost.Library.Basic
import PluginHost.Library.StandardRoutines
import PluginHost.Library.SystemNames
import PluginHost.Trigger.Probe
import PluginHost.Trigger.RequestLogger

/-!
# Libraries at hand

The request logger and the probes as shared libraries, the libraries of the system that they depend
on, and the running program as a library.
-/

namespace PluginHost.Library

/-- The names in lines of names. -/
def namesIn (lines : List String) : List String :=
  lines.flatMap fun line => (split ' ' line.toList).map String.ofList

/-- A function that answers with a number, whatever it is called with. -/
def answering (status : Int32) : Service := .routine status (.answer status.toInt64.toUInt64)

/-- What is called under a name: a routine, or a function that is not modelled further than that it
gives an answer. As a trigger it is called with the address of a request and answers with the
status. -/
def standardService (name : String) (status : Int32) : Service :=
  match standardRoutines.lookup name with
  | some routine => .routine status routine
  | none => answering status

/-- Functions that all answer the same. -/
def allAnswering (status : Int32) (lines : List String) : List (String × Service) :=
  (namesIn lines).map fun name => (name, standardService name status)

/-- Functions with answers of their own. -/
def eachAnswering (answers : List (String × Int32)) : List (String × Service) :=
  answers.map fun entry => (entry.1, standardService entry.1 entry.2)

/-- A library of the system, from what its functions are known to answer and from all names in it.
What nothing is known of does not succeed. -/
def ofNames (known : List (String × Service)) (lines : List String) : Library :=
  ofServices (known ++ allAnswering 1 lines)

/-- The streams of the C library, and where it keeps the variables of the program. -/
def standardCells : List (String × Service) :=
  [("stdin", .cell 0x10000), ("stdout", .cell 0x10001), ("stderr", .cell 0x10002)] ++
    ["environ", "__environ", "_environ"].map (·, .cell variablePlace)

def loaderName : String := "ld-linux-x86-64.so.2"

def standardName : String := "libc.so.6"

/-- The library that loads the others. -/
def loader : Library :=
  ((ofNames [("__tls_get_addr", .routine 1 .threadAddress)] loaderNames).versioned.named
    loaderName).defining
      (namesIn ["GLIBC_2.2.5 GLIBC_2.3 GLIBC_2.4 GLIBC_2.34 GLIBC_2.35 GLIBC_PRIVATE"])

/-- The versions of the C library. -/
def standardVersions : List String := namesIn [
  "GLIBC_2.2.5 GLIBC_2.2.6 GLIBC_2.3 GLIBC_2.3.2 GLIBC_2.3.3 GLIBC_2.3.4 GLIBC_2.4 GLIBC_2.5",
  "GLIBC_2.6 GLIBC_2.7 GLIBC_2.8 GLIBC_2.9 GLIBC_2.10 GLIBC_2.11 GLIBC_2.12 GLIBC_2.13",
  "GLIBC_2.14 GLIBC_2.15 GLIBC_2.16 GLIBC_2.17 GLIBC_2.18 GLIBC_2.22 GLIBC_2.23 GLIBC_2.24",
  "GLIBC_2.25 GLIBC_2.26 GLIBC_2.27 GLIBC_2.28 GLIBC_2.29 GLIBC_2.30 GLIBC_2.31 GLIBC_2.32",
  "GLIBC_2.33 GLIBC_2.34 GLIBC_2.35 GLIBC_2.36 GLIBC_ABI_DT_RELR GLIBC_PRIVATE"]

def standardC : Library :=
  let known := standardCells ++ allAnswering 0 zeroAnswers ++ allAnswering (-1) failureAnswers ++
    eachAnswering otherAnswers
  (((ofNames known standardNames).versioned.named standardName).defining standardVersions).needing
    [loaderName]

/-- The library that compiled code needs. -/
def support : Library :=
  (((ofNames (eachAnswering supportAnswers) supportNames).named "libgcc_s.so.1").defining <|
    namesIn
      ["GCC_3.0 GCC_3.3 GCC_3.3.1 GCC_3.4 GCC_3.4.2 GCC_3.4.4 GCC_4.0.0 GCC_4.2.0 GCC_4.3.0",
        "GCC_4.7.0 GCC_4.8.0 GCC_7.0.0 GCC_12.0.0"]).needing [standardName]

/-- The library of mathematical functions. -/
def mathematics : Library :=
  (((ofNames (eachAnswering mathematicsAnswers) mathematicsNames).versioned.named
    "libm.so.6").defining <|
    namesIn
      ["GLIBC_2.2.5 GLIBC_2.4 GLIBC_2.15 GLIBC_2.18 GLIBC_2.23 GLIBC_2.24 GLIBC_2.25 GLIBC_2.26",
        "GLIBC_2.27 GLIBC_2.28 GLIBC_2.29 GLIBC_2.31 GLIBC_2.32 GLIBC_2.35"]).needing
          [standardName, loaderName]

def resolver : Library :=
  ((ofNames [] resolverNames).named "libresolv.so.2").needing [standardName]

/-- Libraries of the system that hold nothing that is modelled, by file name. The C library holds
what several of them once held. -/
def emptyNames : List String :=
  ["libBrokenLocale.so libBrokenLocale.so.1 libacl.so.1 libanl.so libanl.so.1 libattr.so.1",
    "libaudit.so.1 libblkid.so.1 libbz2.so.1.0 libc_malloc_debug.so libc_malloc_debug.so.0",
    "libcap.so.2 libcrypt.so.1 libdl.so.2 liblz4.so.1 liblzma.so.5 libmemusage.so libmount.so.1",
    "libmvec.so.1 libnsl.so.1 libnss_compat.so libnss_compat.so.2 libnss_dns.so.2",
    "libnss_files.so.2 libnss_hesiod.so libnss_hesiod.so.2 libpam.so.0 libpcprofile.so",
    "libpcre2-8.so.0 libpthread.so.0 librt.so.1 libselinux.so.1 libsmartcols.so.1",
    "libstdc++.so.6 libsystemd.so.0 libthread_db.so libthread_db.so.1 libtinfo.so.6",
    "libudev.so.1 libutil.so.1 libuuid.so.1 libz.so.1 libzstd.so.1"]

/-- The libraries of the system by file name. -/
def system : List (String × Library) :=
  [(standardName, standardC), ("libm.so.6", mathematics), ("libgcc_s.so.1", support),
    ("libresolv.so", resolver), ("libresolv.so.2", resolver)] ++
  (namesIn emptyNames).map fun name => (name, (empty.named name).needing [standardName])

/-- What compiled code of this kind needs. -/
def usualNeeds : List String := ["libgcc_s.so.1", standardName]

def requestLogger : Library :=
  (ofList [("trigger", RequestLogger.trigger)]).needing usualNeeds

def probes : Library := (ofList Probe.all).needing usualNeeds

/-- The running program holds the accessors that triggers call. -/
def program : Library :=
  (ofServices
    [("request_get_method", .accessor .method), ("request_get_uri", .accessor .uri),
      ("request_get_header", .headerAccessor), ("request_get_body", .accessor .body)]).needing
        usualNeeds

/-- A program that holds the request logger besides. -/
def loggingProgram : Library :=
  { program with exports := program.exports ++ requestLogger.exports }

/-- What the system adds to every process. -/
def systemPart : Library :=
  ofNames []
    ["__vdso_clock_getres __vdso_clock_gettime __vdso_getcpu __vdso_gettimeofday __vdso_time",
      "clock_getres clock_gettime getcpu gettimeofday time"]

end PluginHost.Library
