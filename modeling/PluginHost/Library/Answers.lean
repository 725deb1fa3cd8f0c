/-!
# Answers of the C library

Functions of the C library that answer the same in every run when they are called with the address
of a request, in a run by the first user with an empty standard input. Most take the address for a
number or for the name of something, and find nothing that it stands for. What a function does that
machine code calls with other arguments is not told here.
-/

namespace PluginHost.Library

/-- Functions that answer zero: nothing was found, or nothing went wrong. -/
def zeroAnswers : List String := [
  "a64l alarm aligned_alloc atof atoi atol atoll canonicalize_file_name clearenv dlerror dlopen",
  "fcloseall fdopendir getaliasbyname getauxval getegid geteuid getfsfile getfsspec",
  "getgid getgrgid getgrnam gethostbyaddr gethostbyname gethostbyname2 getlogin getnetbyaddr",
  "getnetbyname getprotobyname getprotobynumber getpwnam getpwuid getrpcbyname getrpcbynumber",
  "gets getsgnam getspnam getttynam getuid if_indextoname if_nametoindex inet_aton isascii",
  "isatty iswalnum iswalpha iswblank iswcntrl iswdigit iswgraph iswlower iswprint iswpunct",
  "iswspace iswupper iswxdigit lrand48 malloc memalign mkdtemp mrand48 munlockall newlocale",
  "opendir personality ptsname putenv pvalloc sched_yield setegid seteuid setgid",
  "setlocale setregid setresgid setresuid setreuid setuid sigabbrev_np sigdescr_np",
  "strerrordesc_np strerrorname_np sync ttyname ttyslot valloc wctrans wctype"]

/-- Functions that answer minus one: they fail. -/
def failureAnswers : List String := [
  "accept accept4 access acct bind btowc capset catclose catopen chdir chflags chmod chown",
  "chroot clock_getres clock_gettime clock_settime close connect copy_file_range delete_module",
  "dup dup2 dup3 eaccess euidaccess eventfd_read eventfd_write execl execle execlp execv execve",
  "execveat execvp execvpe faccessat fallocate fallocate64 fchdir fchflags fchmod fchmodat",
  "fchown fchownat fcntl fcntl64 fdatasync fexecve fgetxattr flistxattr fpathconf fremovexattr",
  "fsetxattr fstat fstat64 fstatat fstatat64 fstatfs fstatfs64 fstatvfs fstatvfs64 fsync ftok",
  "ftruncate ftruncate64 futimens getchar getchar_unlocked getdents64 getdirentries",
  "getdirentries64 getitimer getnameinfo getpeername getpgid getpriority getpw getrandom",
  "getresgid getresuid getrlimit getrlimit64 getrusage getsid getsockname getsockopt getwchar",
  "getwchar_unlocked getxattr gsignal gtty inet_addr inet_network init_module inotify_add_watch",
  "inotify_init1 inotify_rm_watch ioctl ioperm iopl kill killpg klogctl lchmod lchown lgetxattr",
  "link linkat listen listxattr llistxattr lockf lockf64 lremovexattr lseek lseek64 lsetxattr",
  "lstat lstat64 madvise mincore mkdirat mkfifoat mknodat mkostemp mkostemp64 mkostemps",
  "mkostemps64 mkstemp mkstemp64 mkstemps mkstemps64 mlock2 mlockall mmap mmap64 mount mprotect",
  "mremap msgctl msgrcv msgsnd msync munmap nftw nftw64 open open64 openat openat64 pivot_root",
  "prctl pread pread64 preadv preadv2 preadv64 preadv64v2 prlimit prlimit64 pwrite pwrite64",
  "pwritev pwritev2 pwritev64 pwritev64v2 quotactl raise read readahead readlink readlinkat",
  "readv reboot recv recvfrom recvmmsg recvmsg remap_file_pages remove removexattr rename",
  "renameat renameat2 revoke rmdir rpmatch sbrk scandir scandir64 sched_get_priority_max",
  "sched_get_priority_min sched_getaffinity sched_getparam sched_getscheduler",
  "sched_rr_get_interval sched_setaffinity sched_setparam sched_setscheduler semctl semget",
  "semop semtimedop send sendfile sendfile64 sendmmsg sendmsg sendto setdomainname setgroups",
  "sethostid sethostname setitimer setlogin setns setpgid setpriority setrlimit setrlimit64",
  "setsockopt settimeofday setxattr shm_open shm_unlink shmat shmctl shmdt shutdown sigaction",
  "sigaltstack sighold sigignore siginterrupt signal signalfd sigqueue sigrelse sigset",
  "sigtimedwait sockatmark socket socketpair stat stat64 statfs statfs64 statvfs statvfs64",
  "statx stty swapoff swapon symlink symlinkat sync_file_range syncfs sysconf sysv_signal",
  "tcdrain tcflow tcflush tcgetattr tcgetpgrp tcgetsid tcsendbreak tcsetpgrp tee tgkill",
  "timer_delete timer_getoverrun timer_gettime timer_settime timerfd_create timerfd_gettime",
  "timerfd_settime truncate truncate64 ualarm ulimit umount umount2 unlink unlinkat unshare",
  "utimensat vhangup vlimit vmsplice wait wait3 wait4 waitid waitpid wctob wcwidth write writev",
  "wscanf"]

/-- Functions with other answers, by their names: error numbers, masks, the length of a page, the
first random number, the length of an address as a string. -/
def otherAnswers : List (String × Int32) :=
  [("getpagesize", 4096), ("__getpagesize", 4096), ("rand", 1804289383), ("random", 1804289383),
    ("umask", 18), ("setlogmask", 255), ("strlen", 6), ("wcslen", 3), ("inotify_init", 3),
    ("getpt", 3), ("posix_madvise", 22), ("posix_memalign", 22), ("malloc_info", 22),
    ("posix_fadvise", 9), ("posix_fadvise64", 9), ("posix_fallocate", 9),
    ("posix_fallocate64", 9), ("__libc_current_sigrtmin", 34), ("__libc_current_sigrtmax", 64),
    ("__libc_allocate_rtsig", 34), ("__sched_yield", 0), ("__profile_frequency", 100),
    ("__close", -1), ("__open", -1), ("__read", -1), ("__write", -1), ("__wait", -1),
    ("__getauxval", 0), ("getenv", 0), ("secure_getenv", 0), ("__secure_getenv", 0)]

/-- Functions of the library of mathematical functions that tell how numbers are treated. -/
def mathematicsAnswers : List (String × Int32) :=
  [("feclearexcept", 0), ("fedisableexcept", 0), ("fegetexcept", 0), ("fegetround", 0)]

/-- Functions of the library that supports compiled code which count the bits at the start of an
address. -/
def supportAnswers : List (String × Int32) := [("__clzdi2", 17), ("__clrsbdi2", 16)]

end PluginHost.Library
