/-!
# Names in the libraries of the system

The functions and objects that the libraries of a usual system export, several names to a line.
-/

namespace PluginHost.Library

/-- Names in the C library. -/
def standardNames : List String := [
  "a64l abort abs accept accept4 access acct addmntent addseverity adjtime __adjtimex adjtimex",
  "aio_cancel aio_cancel64 aio_error aio_error64 aio_fsync aio_fsync64 aio_init aio_read",
  "aio_read64 aio_return aio_return64 aio_suspend aio_suspend64 aio_write aio_write64 alarm",
  "aligned_alloc alphasort alphasort64 arc4random arc4random_buf arc4random_uniform __arch_prctl",
  "arch_prctl argp_err_exit_status argp_error argp_failure argp_help argp_parse",
  "argp_program_bug_address argp_program_version argp_program_version_hook argp_state_help",
  "argp_usage argz_add argz_add_sep argz_append __argz_count argz_count argz_create",
  "argz_create_sep argz_delete argz_extract argz_insert __argz_next argz_next argz_replace",
  "__argz_stringify argz_stringify asctime asctime_r __asprintf asprintf __asprintf_chk __assert",
  "__assert_fail __assert_perror_fail atof atoi atol atoll __backtrace backtrace",
  "__backtrace_symbols backtrace_symbols __backtrace_symbols_fd backtrace_symbols_fd basename",
  "bcmp bcopy bind bind_textdomain_codeset bindresvport bindtextdomain brk __bsd_getpgrp",
  "bsd_signal bsearch btowc __bzero bzero c16rtomb c32rtomb c8rtomb call_once calloc",
  "canonicalize_file_name capget capset catclose catgets catopen cfgetispeed cfgetospeed",
  "cfmakeraw cfsetispeed cfsetospeed cfsetspeed chdir __check_rhosts_file chflags __chk_fail",
  "chmod chown chroot clearenv clearerr clearerr_unlocked clock clock_adjtime clock_getcpuclockid",
  "clock_getres clock_gettime clock_nanosleep clock_settime __clone clone __close close",
  "close_range closedir closefrom closelog __cmsg_nxthdr cnd_broadcast cnd_destroy cnd_init",
  "cnd_signal cnd_timedwait cnd_wait confstr __confstr_chk __connect connect copy_file_range",
  "copysign copysignf copysignl creat creat64 ctermid ctime ctime_r __ctype_b_loc",
  "__ctype_get_mb_cur_max __ctype_tolower_loc __ctype_toupper_loc __curbrk cuserid",
  "__cxa_at_quick_exit __cxa_atexit __cxa_finalize __cxa_thread_atexit_impl",
  "__cyg_profile_func_enter __cyg_profile_func_exit daemon __daylight daylight __dcgettext",
  "dcgettext dcngettext delete_module __dgettext dgettext difftime dirfd dirname div",
  "_dl_find_object dl_iterate_phdr _dl_mcount_wrapper _dl_mcount_wrapper_check dladdr dladdr1",
  "dlclose dlerror dlinfo dlmopen dlopen dlsym dlvsym dn_comp dn_expand dn_skipname dngettext",
  "dprintf __dprintf_chk drand48 drand48_r dup __dup2 dup2 dup3 __duplocale duplocale dysize",
  "eaccess ecvt ecvt_r endaliasent endfsent endgrent endhostent __endmntent endmntent endnetent",
  "endnetgrent endprotoent endpwent endrpcent endservent endsgent endspent endttyent endusershell",
  "endutent endutxent __environ _environ environ envz_add envz_entry envz_get envz_merge",
  "envz_remove envz_strip epoll_create epoll_create1 epoll_ctl epoll_pwait epoll_pwait2",
  "epoll_wait erand48 erand48_r err __errno_location error error_at_line error_message_count",
  "error_one_per_line error_print_progname errx ether_aton ether_aton_r ether_hostton ether_line",
  "ether_ntoa ether_ntoa_r ether_ntohost euidaccess eventfd eventfd_read eventfd_write execl",
  "execle execlp execv execve execveat execvp execvpe _Exit _exit exit explicit_bzero",
  "__explicit_bzero_chk faccessat fallocate fallocate64 fanotify_init fanotify_mark __fbufsize",
  "fchdir fchflags fchmod fchmodat fchown fchownat fclose fcloseall __fcntl fcntl fcntl64 fcvt",
  "fcvt_r fdatasync __fdelt_chk __fdelt_warn fdopen fdopendir __fentry__ feof feof_unlocked",
  "ferror ferror_unlocked fexecve fflush fflush_unlocked __ffs ffs ffsl ffsll fgetc",
  "fgetc_unlocked fgetgrent fgetgrent_r fgetpos fgetpos64 fgetpwent fgetpwent_r fgets __fgets_chk",
  "fgets_unlocked __fgets_unlocked_chk fgetsgent fgetsgent_r fgetspent fgetspent_r fgetwc",
  "fgetwc_unlocked fgetws __fgetws_chk fgetws_unlocked __fgetws_unlocked_chk fgetxattr fileno",
  "fileno_unlocked __finite finite __finitef finitef __finitel finitel __flbf flistxattr flock",
  "flockfile _flushlbf fmemopen fmtmsg fnmatch fopen fopen64 fopencookie _Fork __fork fork",
  "forkpty fpathconf __fpending fprintf __fprintf_chk __fpu_control __fpurge fputc fputc_unlocked",
  "fputs fputs_unlocked fputwc fputwc_unlocked fputws fputws_unlocked fread __fread_chk",
  "fread_unlocked __fread_unlocked_chk __freadable __freading free freeaddrinfo freeifaddrs",
  "__freelocale freelocale fremovexattr freopen freopen64 frexp frexpf frexpl fscanf fsconfig",
  "fseek fseeko fseeko64 __fsetlocking fsetpos fsetpos64 fsetxattr fsmount fsopen fspick fstat",
  "fstat64 fstatat fstatat64 fstatfs fstatfs64 fstatvfs fstatvfs64 fsync ftell ftello ftello64",
  "ftime ftok ftruncate ftruncate64 ftrylockfile fts64_children fts64_close fts64_open fts64_read",
  "fts64_set fts_children fts_close fts_open fts_read fts_set ftw ftw64 funlockfile futimens",
  "futimes futimesat fwide fwprintf __fwprintf_chk __fwritable fwrite fwrite_unlocked __fwriting",
  "fwscanf __fxstat __fxstat64 __fxstatat __fxstatat64 gai_cancel gai_error gai_strerror",
  "gai_suspend gcvt get_avphys_pages get_current_dir_name get_nprocs get_nprocs_conf",
  "get_phys_pages getaddrinfo getaddrinfo_a getaliasbyname getaliasbyname_r getaliasent",
  "getaliasent_r __getauxval getauxval getc getc_unlocked getchar getchar_unlocked getcontext",
  "getcpu getcwd __getcwd_chk getdate getdate_err getdate_r __getdelim getdelim getdents64",
  "getdirentries getdirentries64 getdomainname __getdomainname_chk getdtablesize getegid",
  "getentropy getenv geteuid getfsent getfsfile getfsspec getgid getgrent getgrent_r getgrgid",
  "getgrgid_r getgrnam getgrnam_r getgrouplist getgroups __getgroups_chk gethostbyaddr",
  "gethostbyaddr_r gethostbyname gethostbyname2 gethostbyname2_r gethostbyname_r gethostent",
  "gethostent_r gethostid gethostname __gethostname_chk getifaddrs getipv4sourcefilter getitimer",
  "getline getloadavg getlogin getlogin_r __getlogin_r_chk getmntent __getmntent_r getmntent_r",
  "getnameinfo getnetbyaddr getnetbyaddr_r getnetbyname getnetbyname_r getnetent getnetent_r",
  "getnetgrent getnetgrent_r getopt getopt_long getopt_long_only __getpagesize getpagesize",
  "getpass getpeername __getpgid getpgid getpgrp __getpid getpid getppid getpriority",
  "getprotobyname getprotobyname_r getprotobynumber getprotobynumber_r getprotoent getprotoent_r",
  "getpt getpw getpwent getpwent_r getpwnam getpwnam_r getpwuid getpwuid_r getrandom getresgid",
  "getresuid getrlimit getrlimit64 getrpcbyname getrpcbyname_r getrpcbynumber getrpcbynumber_r",
  "getrpcent getrpcent_r getrusage gets __gets_chk getservbyname getservbyname_r getservbyport",
  "getservbyport_r getservent getservent_r getsgent getsgent_r getsgnam getsgnam_r getsid",
  "getsockname getsockopt getsourcefilter getspent getspent_r getspnam getspnam_r getsubopt",
  "gettext gettid __gettimeofday gettimeofday getttyent getttynam getuid getusershell getutent",
  "getutent_r getutid getutid_r getutline getutline_r getutmp getutmpx getutxent getutxid",
  "getutxline getw getwc getwc_unlocked getwchar getwchar_unlocked getwd __getwd_chk getxattr",
  "glob glob64 glob_pattern_p globfree globfree64 gmtime __gmtime_r gmtime_r gnu_dev_major",
  "gnu_dev_makedev gnu_dev_minor gnu_get_libc_release gnu_get_libc_version grantpt group_member",
  "gsignal gtty h_errlist __h_errno_location h_nerr hasmntopt hcreate hcreate_r hdestroy",
  "hdestroy_r herror hsearch hsearch_r hstrerror htonl htons iconv iconv_close iconv_open",
  "if_freenameindex if_indextoname if_nameindex if_nametoindex imaxabs imaxdiv in6addr_any",
  "in6addr_loopback index inet6_opt_append inet6_opt_find inet6_opt_finish inet6_opt_get_val",
  "inet6_opt_init inet6_opt_next inet6_opt_set_val inet6_option_alloc inet6_option_append",
  "inet6_option_find inet6_option_init inet6_option_next inet6_option_space inet6_rth_add",
  "inet6_rth_getaddr inet6_rth_init inet6_rth_reverse inet6_rth_segments inet6_rth_space",
  "inet_addr inet_aton inet_lnaof inet_makeaddr inet_netof inet_network inet_nsap_addr",
  "inet_nsap_ntoa inet_ntoa inet_ntop inet_pton init_module initgroups initstate initstate_r",
  "innetgr inotify_add_watch inotify_init inotify_init1 inotify_rm_watch insque _IO_2_1_stderr_",
  "_IO_2_1_stdin_ _IO_2_1_stdout_ _IO_adjust_column _IO_adjust_wcolumn _IO_default_doallocate",
  "_IO_default_finish _IO_default_pbackfail _IO_default_uflow _IO_default_xsgetn",
  "_IO_default_xsputn _IO_do_write _IO_doallocbuf _IO_fclose _IO_fdopen _IO_feof _IO_ferror",
  "_IO_fflush _IO_fgetpos _IO_fgetpos64 _IO_fgets _IO_file_attach _IO_file_close",
  "_IO_file_close_it _IO_file_doallocate _IO_file_finish _IO_file_fopen _IO_file_init",
  "_IO_file_jumps _IO_file_open _IO_file_overflow _IO_file_read _IO_file_seek _IO_file_seekoff",
  "_IO_file_setbuf _IO_file_stat _IO_file_sync _IO_file_underflow _IO_file_write _IO_file_xsputn",
  "_IO_flockfile _IO_flush_all _IO_flush_all_linebuffered _IO_fopen _IO_fprintf _IO_fputs",
  "_IO_fread _IO_free_backup_area _IO_free_wbackup_area _IO_fsetpos _IO_fsetpos64 _IO_ftell",
  "_IO_ftrylockfile _IO_funlockfile _IO_fwrite _IO_getc _IO_getline _IO_getline_info _IO_gets",
  "_IO_init _IO_init_marker _IO_init_wmarker _IO_iter_begin _IO_iter_end _IO_iter_file",
  "_IO_iter_next _IO_least_wmarker _IO_link_in _IO_list_all _IO_list_lock _IO_list_resetlock",
  "_IO_list_unlock _IO_marker_delta _IO_marker_difference _IO_padn _IO_peekc_locked _IO_popen",
  "_IO_printf _IO_proc_close _IO_proc_open _IO_putc _IO_puts _IO_remove_marker _IO_seekmark",
  "_IO_seekoff _IO_seekpos _IO_seekwmark _IO_setb _IO_setbuffer _IO_setvbuf _IO_sgetn _IO_sprintf",
  "_IO_sputbackc _IO_sputbackwc _IO_sscanf _IO_str_init_readonly _IO_str_init_static",
  "_IO_str_overflow _IO_str_pbackfail _IO_str_seekoff _IO_str_underflow _IO_sungetc _IO_sungetwc",
  "_IO_switch_to_get_mode _IO_switch_to_main_wget_area _IO_switch_to_wbackup_area",
  "_IO_switch_to_wget_mode _IO_un_link _IO_ungetc _IO_unsave_markers _IO_unsave_wmarkers",
  "_IO_vfprintf _IO_vsprintf _IO_wdefault_doallocate _IO_wdefault_finish _IO_wdefault_pbackfail",
  "_IO_wdefault_uflow _IO_wdefault_xsgetn _IO_wdefault_xsputn _IO_wdo_write _IO_wdoallocbuf",
  "_IO_wfile_jumps _IO_wfile_overflow _IO_wfile_seekoff _IO_wfile_sync _IO_wfile_underflow",
  "_IO_wfile_xsputn _IO_wmarker_delta _IO_wsetb ioctl ioperm iopl iruserok iruserok_af isalnum",
  "__isalnum_l isalnum_l isalpha __isalpha_l isalpha_l isascii __isascii_l isatty isblank",
  "__isblank_l isblank_l iscntrl __iscntrl_l iscntrl_l __isctype isctype isdigit __isdigit_l",
  "isdigit_l isfdtype isgraph __isgraph_l isgraph_l __isinf isinf __isinff isinff __isinfl isinfl",
  "islower __islower_l islower_l __isnan isnan __isnanf isnanf __isnanf128 __isnanl isnanl",
  "__isoc99_fscanf __isoc99_fwscanf __isoc99_scanf __isoc99_sscanf __isoc99_swscanf",
  "__isoc99_vfscanf __isoc99_vfwscanf __isoc99_vscanf __isoc99_vsscanf __isoc99_vswscanf",
  "__isoc99_vwscanf __isoc99_wscanf isprint __isprint_l isprint_l ispunct __ispunct_l ispunct_l",
  "isspace __isspace_l isspace_l isupper __isupper_l isupper_l iswalnum __iswalnum_l iswalnum_l",
  "iswalpha __iswalpha_l iswalpha_l iswblank __iswblank_l iswblank_l iswcntrl __iswcntrl_l",
  "iswcntrl_l __iswctype iswctype __iswctype_l iswctype_l iswdigit __iswdigit_l iswdigit_l",
  "iswgraph __iswgraph_l iswgraph_l iswlower __iswlower_l iswlower_l iswprint __iswprint_l",
  "iswprint_l iswpunct __iswpunct_l iswpunct_l iswspace __iswspace_l iswspace_l iswupper",
  "__iswupper_l iswupper_l iswxdigit __iswxdigit_l iswxdigit_l isxdigit __isxdigit_l isxdigit_l",
  "jrand48 jrand48_r kill killpg klogctl l64a labs lchmod lchown lckpwdf lcong48 lcong48_r ldexp",
  "ldexpf ldexpl ldiv lfind lgetxattr __libc_allocate_rtsig __libc_calloc __libc_current_sigrtmax",
  "__libc_current_sigrtmin __libc_free __libc_freeres __libc_init_first _libc_intl_domainname",
  "__libc_mallinfo __libc_malloc __libc_mallopt __libc_memalign __libc_pvalloc __libc_realloc",
  "__libc_sa_len __libc_single_threaded __libc_start_main __libc_valloc link linkat lio_listio",
  "lio_listio64 listen listxattr llabs lldiv llistxattr localeconv localtime localtime_r lockf",
  "lockf64 login login_tty logout logwtmp _longjmp longjmp __longjmp_chk lrand48 lrand48_r",
  "lremovexattr lsearch __lseek lseek lseek64 lsetxattr lstat lstat64 lutimes __lxstat __lxstat64",
  "madvise makecontext mallinfo mallinfo2 malloc malloc_info malloc_stats malloc_trim",
  "malloc_usable_size mallopt mblen __mbrlen mbrlen mbrtoc16 mbrtoc32 mbrtoc8 __mbrtowc mbrtowc",
  "mbsinit mbsnrtowcs __mbsnrtowcs_chk mbsrtowcs __mbsrtowcs_chk mbstowcs __mbstowcs_chk mbtowc",
  "mcheck mcheck_check_all mcheck_pedantic _mcleanup _mcount mcount memalign memccpy memchr",
  "memcmp __memcmpeq memcpy __memcpy_chk memfd_create memfrob memmem memmove __memmove_chk",
  "__mempcpy mempcpy __mempcpy_chk memrchr memset __memset_chk mincore mkdir mkdirat mkdtemp",
  "mkfifo mkfifoat mknod mknodat mkostemp mkostemp64 mkostemps mkostemps64 mkstemp mkstemp64",
  "mkstemps mkstemps64 mktemp mktime mlock mlock2 mlockall mmap mmap64 modf modff modfl",
  "modify_ldt moncontrol __monstartup monstartup mount mount_setattr move_mount mprobe mprotect",
  "mq_close mq_getattr mq_notify mq_open __mq_open_2 mq_receive mq_send mq_setattr",
  "mq_timedreceive mq_timedsend mq_unlink mrand48 mrand48_r mremap msgctl msgget msgrcv msgsnd",
  "msync mtrace mtx_destroy mtx_init mtx_lock mtx_timedlock mtx_trylock mtx_unlock munlock",
  "munlockall munmap muntrace name_to_handle_at __nanosleep nanosleep __newlocale newlocale nftw",
  "nftw64 ngettext nice _nl_default_dirname _nl_domain_bindings nl_langinfo __nl_langinfo_l",
  "nl_langinfo_l _nl_msg_cat_cntr nrand48 nrand48_r ns_name_compress ns_name_ntop ns_name_pack",
  "ns_name_pton ns_name_skip ns_name_uncompress ns_name_unpack __nss_configure_lookup",
  "__nss_hostname_digits_dots ntohl ntohs ntp_adjtime ntp_gettime ntp_gettimex",
  "obstack_alloc_failed_handler _obstack_allocated_p _obstack_begin _obstack_begin_1",
  "obstack_exit_failure _obstack_free obstack_free _obstack_memory_used _obstack_newchunk",
  "obstack_printf __obstack_printf_chk obstack_vprintf __obstack_vprintf_chk on_exit __open open",
  "__open64 open64 __open64_2 __open_2 open_by_handle_at open_memstream open_tree open_wmemstream",
  "openat openat64 __openat64_2 __openat_2 opendir openlog openpty optarg opterr optind optopt",
  "__overflow parse_printf_format pathconf pause pclose perror personality pidfd_getfd pidfd_open",
  "pidfd_send_signal __pipe pipe pipe2 pivot_root pkey_alloc pkey_free pkey_get pkey_mprotect",
  "pkey_set __poll poll __poll_chk popen posix_fadvise posix_fadvise64 posix_fallocate",
  "posix_fallocate64 __posix_getopt posix_madvise posix_memalign posix_openpt posix_spawn",
  "posix_spawn_file_actions_addchdir_np posix_spawn_file_actions_addclose",
  "posix_spawn_file_actions_addclosefrom_np posix_spawn_file_actions_adddup2",
  "posix_spawn_file_actions_addfchdir_np posix_spawn_file_actions_addopen",
  "posix_spawn_file_actions_addtcsetpgrp_np posix_spawn_file_actions_destroy",
  "posix_spawn_file_actions_init posix_spawnattr_destroy posix_spawnattr_getflags",
  "posix_spawnattr_getpgroup posix_spawnattr_getschedparam posix_spawnattr_getschedpolicy",
  "posix_spawnattr_getsigdefault posix_spawnattr_getsigmask posix_spawnattr_init",
  "posix_spawnattr_setflags posix_spawnattr_setpgroup posix_spawnattr_setschedparam",
  "posix_spawnattr_setschedpolicy posix_spawnattr_setsigdefault posix_spawnattr_setsigmask",
  "posix_spawnp ppoll __ppoll_chk prctl pread __pread64 pread64 __pread64_chk __pread_chk preadv",
  "preadv2 preadv64 preadv64v2 printf __printf_chk __printf_fp printf_size printf_size_info",
  "prlimit prlimit64 process_madvise process_mrelease process_vm_readv process_vm_writev profil",
  "__profile_frequency __progname __progname_full program_invocation_name",
  "program_invocation_short_name pselect psiginfo psignal pthread_attr_destroy",
  "pthread_attr_getaffinity_np pthread_attr_getdetachstate pthread_attr_getguardsize",
  "pthread_attr_getinheritsched pthread_attr_getschedparam pthread_attr_getschedpolicy",
  "pthread_attr_getscope pthread_attr_getsigmask_np pthread_attr_getstack",
  "pthread_attr_getstackaddr pthread_attr_getstacksize pthread_attr_init",
  "pthread_attr_setaffinity_np pthread_attr_setdetachstate pthread_attr_setguardsize",
  "pthread_attr_setinheritsched pthread_attr_setschedparam pthread_attr_setschedpolicy",
  "pthread_attr_setscope pthread_attr_setsigmask_np pthread_attr_setstack",
  "pthread_attr_setstackaddr pthread_attr_setstacksize pthread_barrier_destroy",
  "pthread_barrier_init pthread_barrier_wait pthread_barrierattr_destroy",
  "pthread_barrierattr_getpshared pthread_barrierattr_init pthread_barrierattr_setpshared",
  "pthread_cancel _pthread_cleanup_pop _pthread_cleanup_push __pthread_cleanup_routine",
  "pthread_clockjoin_np pthread_cond_broadcast pthread_cond_clockwait pthread_cond_destroy",
  "pthread_cond_init pthread_cond_signal pthread_cond_timedwait pthread_cond_wait",
  "pthread_condattr_destroy pthread_condattr_getclock pthread_condattr_getpshared",
  "pthread_condattr_init pthread_condattr_setclock pthread_condattr_setpshared pthread_create",
  "pthread_detach pthread_equal pthread_exit pthread_getaffinity_np pthread_getattr_default_np",
  "pthread_getattr_np pthread_getconcurrency pthread_getcpuclockid pthread_getname_np",
  "pthread_getschedparam pthread_getspecific pthread_join __pthread_key_create pthread_key_create",
  "pthread_key_delete pthread_kill pthread_mutex_clocklock pthread_mutex_consistent",
  "pthread_mutex_destroy pthread_mutex_getprioceiling pthread_mutex_init pthread_mutex_lock",
  "pthread_mutex_setprioceiling pthread_mutex_timedlock pthread_mutex_trylock",
  "pthread_mutex_unlock pthread_mutexattr_destroy pthread_mutexattr_getprioceiling",
  "pthread_mutexattr_getprotocol pthread_mutexattr_getpshared pthread_mutexattr_getrobust",
  "pthread_mutexattr_gettype pthread_mutexattr_init pthread_mutexattr_setprioceiling",
  "pthread_mutexattr_setprotocol pthread_mutexattr_setpshared pthread_mutexattr_setrobust",
  "pthread_mutexattr_settype pthread_once __pthread_register_cancel",
  "__pthread_register_cancel_defer pthread_rwlock_clockrdlock pthread_rwlock_clockwrlock",
  "pthread_rwlock_destroy pthread_rwlock_init pthread_rwlock_rdlock pthread_rwlock_timedrdlock",
  "pthread_rwlock_timedwrlock pthread_rwlock_tryrdlock pthread_rwlock_trywrlock",
  "pthread_rwlock_unlock pthread_rwlock_wrlock pthread_rwlockattr_destroy",
  "pthread_rwlockattr_getkind_np pthread_rwlockattr_getpshared pthread_rwlockattr_init",
  "pthread_rwlockattr_setkind_np pthread_rwlockattr_setpshared pthread_self",
  "pthread_setaffinity_np pthread_setattr_default_np pthread_setcancelstate pthread_setcanceltype",
  "pthread_setconcurrency pthread_setname_np pthread_setschedparam pthread_setschedprio",
  "pthread_setspecific pthread_sigmask pthread_sigqueue pthread_spin_destroy pthread_spin_init",
  "pthread_spin_lock pthread_spin_trylock pthread_spin_unlock pthread_testcancel",
  "pthread_timedjoin_np pthread_tryjoin_np __pthread_unregister_cancel",
  "__pthread_unregister_cancel_restore __pthread_unwind_next ptrace ptsname ptsname_r",
  "__ptsname_r_chk putc putc_unlocked putchar putchar_unlocked putenv putgrent putpwent puts",
  "putsgent putspent pututline pututxline putw putwc putwc_unlocked putwchar putwchar_unlocked",
  "pvalloc pwrite __pwrite64 pwrite64 pwritev pwritev2 pwritev64 pwritev64v2 qecvt qecvt_r qfcvt",
  "qfcvt_r qgcvt qsort qsort_r quick_exit quotactl raise rand rand_r random random_r __rawmemchr",
  "rawmemchr rcmd rcmd_af __rcmd_errstr re_comp re_compile_fastmap re_compile_pattern re_exec",
  "re_match re_match_2 re_max_failures re_search re_search_2 re_set_registers re_set_syntax",
  "re_syntax_options __read read __read_chk readahead readdir readdir64 readdir64_r readdir_r",
  "readlink __readlink_chk readlinkat __readlinkat_chk readv realloc reallocarray realpath",
  "__realpath_chk reboot recv __recv_chk recvfrom __recvfrom_chk recvmmsg recvmsg regcomp",
  "regerror regexec regfree __register_atfork register_printf_function register_printf_modifier",
  "register_printf_specifier register_printf_type remap_file_pages remove removexattr remque",
  "rename renameat renameat2 res_dnok _res_hconf res_hnok __res_init res_mailok res_mkquery",
  "__res_nclose __res_ninit res_nmkquery res_nquery res_nquerydomain res_nsearch res_nsend",
  "res_ownok res_query res_querydomain __res_randomid res_search res_send __res_state revoke",
  "rewind rewinddir rexec rexec_af rexecoptions rindex rmdir rpmatch rresvport rresvport_af",
  "ruserok ruserok_af ruserpass __sbrk sbrk scalbn scalbnf scalbnl scandir scandir64 scandirat",
  "scandirat64 scanf __sched_cpualloc __sched_cpucount __sched_cpufree __sched_get_priority_max",
  "sched_get_priority_max __sched_get_priority_min sched_get_priority_min sched_getaffinity",
  "sched_getcpu __sched_getparam sched_getparam __sched_getscheduler sched_getscheduler",
  "sched_rr_get_interval sched_setaffinity sched_setparam __sched_setscheduler sched_setscheduler",
  "__sched_yield sched_yield secure_getenv seed48 seed48_r seekdir __select select sem_clockwait",
  "sem_close sem_destroy sem_getvalue sem_init sem_open sem_post sem_timedwait sem_trywait",
  "sem_unlink sem_wait semctl semget semop semtimedop __send send sendfile sendfile64 sendmmsg",
  "sendmsg sendto setaliasent setbuf setbuffer setcontext setdomainname setegid setenv seteuid",
  "setfsent setfsgid setfsuid setgid setgrent setgroups sethostent sethostid sethostname",
  "setipv4sourcefilter setitimer _setjmp setjmp setlinebuf setlocale setlogin setlogmask",
  "__setmntent setmntent setnetent setnetgrent setns __setpgid setpgid setpgrp setpriority",
  "setprotoent setpwent setregid setresgid setresuid setreuid setrlimit setrlimit64 setrpcent",
  "setservent setsgent setsid setsockopt setsourcefilter setspent setstate setstate_r",
  "settimeofday setttyent setuid setusershell setutent setutxent setvbuf setxattr sgetsgent",
  "sgetsgent_r sgetspent sgetspent_r shm_open shm_unlink shmat shmctl shmdt shmget shutdown",
  "sigabbrev_np __sigaction sigaction sigaddset sigaltstack sigandset sigblock sigdelset",
  "sigdescr_np sigemptyset sigfillset siggetmask sighold sigignore siginterrupt sigisemptyset",
  "sigismember siglongjmp signal signalfd __signbit __signbitf __signbitl sigorset __sigpause",
  "sigpause sigpending sigprocmask sigqueue sigrelse sigreturn sigset __sigsetjmp sigsetmask",
  "sigstack __sigsuspend sigsuspend sigtimedwait sigwait sigwaitinfo sleep snprintf",
  "__snprintf_chk sockatmark socket socketpair splice sprintf __sprintf_chk sprofil srand srand48",
  "srand48_r srandom srandom_r sscanf ssignal __stack_chk_fail stat stat64 __statfs statfs",
  "statfs64 statvfs statvfs64 statx stderr stdin stdout __stpcpy stpcpy __stpcpy_chk __stpncpy",
  "stpncpy __stpncpy_chk __strcasecmp strcasecmp __strcasecmp_l strcasecmp_l __strcasestr",
  "strcasestr strcat __strcat_chk strchr strchrnul strcmp strcoll __strcoll_l strcoll_l strcpy",
  "__strcpy_chk strcspn __strdup strdup strerror strerror_l __strerror_r strerror_r",
  "strerrordesc_np strerrorname_np strfmon __strfmon_l strfmon_l strfromd strfromf strfromf128",
  "strfromf32 strfromf32x strfromf64 strfromf64x strfroml strfry strftime __strftime_l strftime_l",
  "strlen strncasecmp __strncasecmp_l strncasecmp_l strncat __strncat_chk strncmp strncpy",
  "__strncpy_chk __strndup strndup strnlen strpbrk strptime strptime_l strrchr strsep __strsep_g",
  "strsignal strspn strstr strtod __strtod_internal __strtod_l strtod_l strtof strtof128",
  "__strtof128_internal strtof128_l strtof32 strtof32_l strtof32x strtof32x_l strtof64 strtof64_l",
  "strtof64x strtof64x_l __strtof_internal __strtof_l strtof_l strtoimax strtok __strtok_r",
  "strtok_r strtol __strtol_internal __strtol_l strtol_l strtold __strtold_internal __strtold_l",
  "strtold_l strtoll __strtoll_internal __strtoll_l strtoll_l strtoq strtoul __strtoul_internal",
  "__strtoul_l strtoul_l strtoull __strtoull_internal __strtoull_l strtoull_l strtoumax strtouq",
  "__strverscmp strverscmp strxfrm __strxfrm_l strxfrm_l stty swab swapcontext swapoff swapon",
  "swprintf __swprintf_chk swscanf symlink symlinkat sync sync_file_range syncfs syscall",
  "__sysconf sysconf sysinfo syslog __syslog_chk system __sysv_signal sysv_signal tcdrain tcflow",
  "tcflush tcgetattr tcgetpgrp tcgetsid tcsendbreak tcsetattr tcsetpgrp tdelete tdestroy tee",
  "telldir tempnam textdomain tfind tgkill thrd_create thrd_current thrd_detach thrd_equal",
  "thrd_exit thrd_join thrd_sleep thrd_yield time timegm timelocal timer_create timer_delete",
  "timer_getoverrun timer_gettime timer_settime timerfd_create timerfd_gettime timerfd_settime",
  "times timespec_get timespec_getres __timezone timezone tmpfile tmpfile64 tmpnam tmpnam_r",
  "toascii __toascii_l _tolower tolower __tolower_l tolower_l _toupper toupper __toupper_l",
  "toupper_l __towctrans towctrans __towctrans_l towctrans_l towlower __towlower_l towlower_l",
  "towupper __towupper_l towupper_l truncate truncate64 tsearch tss_create tss_delete tss_get",
  "tss_set ttyname ttyname_r __ttyname_r_chk ttyslot twalk twalk_r __tzname tzname tzset ualarm",
  "__uflow ulckpwdf ulimit umask umount umount2 uname __underflow ungetc ungetwc unlink unlinkat",
  "unlockpt unsetenv unshare updwtmp updwtmpx __uselocale uselocale usleep utime utimensat utimes",
  "utmpname utmpxname valloc vasprintf __vasprintf_chk vdprintf __vdprintf_chk verr verrx",
  "versionsort versionsort64 __vfork vfork vfprintf __vfprintf_chk __vfscanf vfscanf vfwprintf",
  "__vfwprintf_chk vfwscanf vhangup vlimit vmsplice vprintf __vprintf_chk vscanf __vsnprintf",
  "vsnprintf __vsnprintf_chk vsprintf __vsprintf_chk __vsscanf vsscanf vswprintf __vswprintf_chk",
  "vswscanf vsyslog __vsyslog_chk vwarn vwarnx vwprintf __vwprintf_chk vwscanf __wait wait wait3",
  "wait4 waitid __waitpid waitpid warn warnx wcpcpy __wcpcpy_chk wcpncpy __wcpncpy_chk wcrtomb",
  "__wcrtomb_chk wcscasecmp __wcscasecmp_l wcscasecmp_l wcscat __wcscat_chk wcschr wcschrnul",
  "wcscmp wcscoll __wcscoll_l wcscoll_l wcscpy __wcscpy_chk wcscspn wcsdup wcsftime __wcsftime_l",
  "wcsftime_l wcslen wcsncasecmp __wcsncasecmp_l wcsncasecmp_l wcsncat __wcsncat_chk wcsncmp",
  "wcsncpy __wcsncpy_chk wcsnlen wcsnrtombs __wcsnrtombs_chk wcspbrk wcsrchr wcsrtombs",
  "__wcsrtombs_chk wcsspn wcsstr wcstod __wcstod_internal __wcstod_l wcstod_l wcstof wcstof128",
  "__wcstof128_internal wcstof128_l wcstof32 wcstof32_l wcstof32x wcstof32x_l wcstof64 wcstof64_l",
  "wcstof64x wcstof64x_l __wcstof_internal __wcstof_l wcstof_l wcstoimax wcstok wcstol",
  "__wcstol_internal __wcstol_l wcstol_l wcstold __wcstold_internal __wcstold_l wcstold_l wcstoll",
  "__wcstoll_internal __wcstoll_l wcstoll_l wcstombs __wcstombs_chk wcstoq wcstoul",
  "__wcstoul_internal __wcstoul_l wcstoul_l wcstoull __wcstoull_internal __wcstoull_l wcstoull_l",
  "wcstoumax wcstouq wcswcs wcswidth wcsxfrm __wcsxfrm_l wcsxfrm_l wctob wctomb __wctomb_chk",
  "wctrans __wctrans_l wctrans_l wctype __wctype_l wctype_l wcwidth wmemchr wmemcmp wmemcpy",
  "__wmemcpy_chk wmemmove __wmemmove_chk wmempcpy __wmempcpy_chk wmemset __wmemset_chk wordexp",
  "wordfree __woverflow wprintf __wprintf_chk __write write writev wscanf __wuflow __wunderflow",
  "__x86_get_cpuid_feature_leaf __xmknod __xmknodat __xpg_basename __xpg_sigpause",
  "__xpg_strerror_r __xstat __xstat64"]

/-- Names in the library of mathematical functions. -/
def mathematicsNames : List String := [
  "acos acosf acosf128 acosf32 acosf32x acosf64 acosf64x acosh acoshf acoshf128 acoshf32",
  "acoshf32x acoshf64 acoshf64x acoshl acosl asin asinf asinf128 asinf32 asinf32x asinf64",
  "asinf64x asinh asinhf asinhf128 asinhf32 asinhf32x asinhf64 asinhf64x asinhl asinl atan atan2",
  "atan2f atan2f128 atan2f32 atan2f32x atan2f64 atan2f64x atan2l atanf atanf128 atanf32 atanf32x",
  "atanf64 atanf64x atanh atanhf atanhf128 atanhf32 atanhf32x atanhf64 atanhf64x atanhl atanl",
  "cabs cabsf cabsf128 cabsf32 cabsf32x cabsf64 cabsf64x cabsl cacos cacosf cacosf128 cacosf32",
  "cacosf32x cacosf64 cacosf64x cacosh cacoshf cacoshf128 cacoshf32 cacoshf32x cacoshf64",
  "cacoshf64x cacoshl cacosl canonicalize canonicalizef canonicalizef128 canonicalizef32",
  "canonicalizef32x canonicalizef64 canonicalizef64x canonicalizel carg cargf cargf128 cargf32",
  "cargf32x cargf64 cargf64x cargl casin casinf casinf128 casinf32 casinf32x casinf64 casinf64x",
  "casinh casinhf casinhf128 casinhf32 casinhf32x casinhf64 casinhf64x casinhl casinl catan",
  "catanf catanf128 catanf32 catanf32x catanf64 catanf64x catanh catanhf catanhf128 catanhf32",
  "catanhf32x catanhf64 catanhf64x catanhl catanl cbrt cbrtf cbrtf128 cbrtf32 cbrtf32x cbrtf64",
  "cbrtf64x cbrtl ccos ccosf ccosf128 ccosf32 ccosf32x ccosf64 ccosf64x ccosh ccoshf ccoshf128",
  "ccoshf32 ccoshf32x ccoshf64 ccoshf64x ccoshl ccosl ceil ceilf ceilf128 ceilf32 ceilf32x",
  "ceilf64 ceilf64x ceill cexp cexpf cexpf128 cexpf32 cexpf32x cexpf64 cexpf64x cexpl cimag",
  "cimagf cimagf128 cimagf32 cimagf32x cimagf64 cimagf64x cimagl clog __clog10 clog10 __clog10f",
  "clog10f clog10f128 clog10f32 clog10f32x clog10f64 clog10f64x __clog10l clog10l clogf clogf128",
  "clogf32 clogf32x clogf64 clogf64x clogl conj conjf conjf128 conjf32 conjf32x conjf64 conjf64x",
  "conjl copysign copysignf copysignf128 copysignf32 copysignf32x copysignf64 copysignf64x",
  "copysignl cos cosf cosf128 cosf32 cosf32x cosf64 cosf64x cosh coshf coshf128 coshf32 coshf32x",
  "coshf64 coshf64x coshl cosl cpow cpowf cpowf128 cpowf32 cpowf32x cpowf64 cpowf64x cpowl cproj",
  "cprojf cprojf128 cprojf32 cprojf32x cprojf64 cprojf64x cprojl creal crealf crealf128 crealf32",
  "crealf32x crealf64 crealf64x creall csin csinf csinf128 csinf32 csinf32x csinf64 csinf64x",
  "csinh csinhf csinhf128 csinhf32 csinhf32x csinhf64 csinhf64x csinhl csinl csqrt csqrtf",
  "csqrtf128 csqrtf32 csqrtf32x csqrtf64 csqrtf64x csqrtl ctan ctanf ctanf128 ctanf32 ctanf32x",
  "ctanf64 ctanf64x ctanh ctanhf ctanhf128 ctanhf32 ctanhf32x ctanhf64 ctanhf64x ctanhl ctanl",
  "daddl ddivl dfmal dmull drem dremf dreml dsqrtl dsubl erf erfc erfcf erfcf128 erfcf32 erfcf32x",
  "erfcf64 erfcf64x erfcl erff erff128 erff32 erff32x erff64 erff64x erfl exp exp10 exp10f",
  "exp10f128 exp10f32 exp10f32x exp10f64 exp10f64x exp10l exp2 exp2f exp2f128 exp2f32 exp2f32x",
  "exp2f64 exp2f64x exp2l expf expf128 expf32 expf32x expf64 expf64x expl expm1 expm1f expm1f128",
  "expm1f32 expm1f32x expm1f64 expm1f64x expm1l f32addf128 f32addf32x f32addf64 f32addf64x",
  "f32divf128 f32divf32x f32divf64 f32divf64x f32fmaf128 f32fmaf32x f32fmaf64 f32fmaf64x",
  "f32mulf128 f32mulf32x f32mulf64 f32mulf64x f32sqrtf128 f32sqrtf32x f32sqrtf64 f32sqrtf64x",
  "f32subf128 f32subf32x f32subf64 f32subf64x f32xaddf128 f32xaddf64 f32xaddf64x f32xdivf128",
  "f32xdivf64 f32xdivf64x f32xfmaf128 f32xfmaf64 f32xfmaf64x f32xmulf128 f32xmulf64 f32xmulf64x",
  "f32xsqrtf128 f32xsqrtf64 f32xsqrtf64x f32xsubf128 f32xsubf64 f32xsubf64x f64addf128 f64addf64x",
  "f64divf128 f64divf64x f64fmaf128 f64fmaf64x f64mulf128 f64mulf64x f64sqrtf128 f64sqrtf64x",
  "f64subf128 f64subf64x f64xaddf128 f64xdivf128 f64xfmaf128 f64xmulf128 f64xsqrtf128 f64xsubf128",
  "fabs fabsf fabsf128 fabsf32 fabsf32x fabsf64 fabsf64x fabsl fadd faddl fdim fdimf fdimf128",
  "fdimf32 fdimf32x fdimf64 fdimf64x fdiml fdiv fdivl feclearexcept fedisableexcept",
  "feenableexcept fegetenv fegetexcept fegetexceptflag fegetmode fegetround feholdexcept",
  "feraiseexcept fesetenv fesetexcept fesetexceptflag fesetmode fesetround fetestexcept",
  "fetestexceptflag feupdateenv ffma ffmal __finite finite __finitef finitef __finitef128",
  "__finitel finitel floor floorf floorf128 floorf32 floorf32x floorf64 floorf64x floorl fma fmaf",
  "fmaf128 fmaf32 fmaf32x fmaf64 fmaf64x fmal fmax fmaxf fmaxf128 fmaxf32 fmaxf32x fmaxf64",
  "fmaxf64x fmaximum fmaximum_mag fmaximum_mag_num fmaximum_mag_numf fmaximum_mag_numf128",
  "fmaximum_mag_numf32 fmaximum_mag_numf32x fmaximum_mag_numf64 fmaximum_mag_numf64x",
  "fmaximum_mag_numl fmaximum_magf fmaximum_magf128 fmaximum_magf32 fmaximum_magf32x",
  "fmaximum_magf64 fmaximum_magf64x fmaximum_magl fmaximum_num fmaximum_numf fmaximum_numf128",
  "fmaximum_numf32 fmaximum_numf32x fmaximum_numf64 fmaximum_numf64x fmaximum_numl fmaximumf",
  "fmaximumf128 fmaximumf32 fmaximumf32x fmaximumf64 fmaximumf64x fmaximuml fmaxl fmaxmag",
  "fmaxmagf fmaxmagf128 fmaxmagf32 fmaxmagf32x fmaxmagf64 fmaxmagf64x fmaxmagl fmin fminf",
  "fminf128 fminf32 fminf32x fminf64 fminf64x fminimum fminimum_mag fminimum_mag_num",
  "fminimum_mag_numf fminimum_mag_numf128 fminimum_mag_numf32 fminimum_mag_numf32x",
  "fminimum_mag_numf64 fminimum_mag_numf64x fminimum_mag_numl fminimum_magf fminimum_magf128",
  "fminimum_magf32 fminimum_magf32x fminimum_magf64 fminimum_magf64x fminimum_magl fminimum_num",
  "fminimum_numf fminimum_numf128 fminimum_numf32 fminimum_numf32x fminimum_numf64",
  "fminimum_numf64x fminimum_numl fminimumf fminimumf128 fminimumf32 fminimumf32x fminimumf64",
  "fminimumf64x fminimuml fminl fminmag fminmagf fminmagf128 fminmagf32 fminmagf32x fminmagf64",
  "fminmagf64x fminmagl fmod fmodf fmodf128 fmodf32 fmodf32x fmodf64 fmodf64x fmodl fmul fmull",
  "__fpclassify __fpclassifyf __fpclassifyf128 __fpclassifyl frexp frexpf frexpf128 frexpf32",
  "frexpf32x frexpf64 frexpf64x frexpl fromfp fromfpf fromfpf128 fromfpf32 fromfpf32x fromfpf64",
  "fromfpf64x fromfpl fromfpx fromfpxf fromfpxf128 fromfpxf32 fromfpxf32x fromfpxf64 fromfpxf64x",
  "fromfpxl fsqrt fsqrtl fsub fsubl gamma gammaf gammal getpayload getpayloadf getpayloadf128",
  "getpayloadf32 getpayloadf32x getpayloadf64 getpayloadf64x getpayloadl hypot hypotf hypotf128",
  "hypotf32 hypotf32x hypotf64 hypotf64x hypotl ilogb ilogbf ilogbf128 ilogbf32 ilogbf32x",
  "ilogbf64 ilogbf64x ilogbl __iscanonicall __iseqsig __iseqsigf __iseqsigf128 __iseqsigl",
  "__isinff128 __issignaling __issignalingf __issignalingf128 __issignalingl j0 j0f j0f128 j0f32",
  "j0f32x j0f64 j0f64x j0l j1 j1f j1f128 j1f32 j1f32x j1f64 j1f64x j1l jn jnf jnf128 jnf32 jnf32x",
  "jnf64 jnf64x jnl ldexp ldexpf ldexpf128 ldexpf32 ldexpf32x ldexpf64 ldexpf64x ldexpl lgamma",
  "lgamma_r lgammaf lgammaf128 lgammaf128_r lgammaf32 lgammaf32_r lgammaf32x lgammaf32x_r",
  "lgammaf64 lgammaf64_r lgammaf64x lgammaf64x_r lgammaf_r lgammal lgammal_r llogb llogbf",
  "llogbf128 llogbf32 llogbf32x llogbf64 llogbf64x llogbl llrint llrintf llrintf128 llrintf32",
  "llrintf32x llrintf64 llrintf64x llrintl llround llroundf llroundf128 llroundf32 llroundf32x",
  "llroundf64 llroundf64x llroundl log log10 log10f log10f128 log10f32 log10f32x log10f64",
  "log10f64x log10l log1p log1pf log1pf128 log1pf32 log1pf32x log1pf64 log1pf64x log1pl log2",
  "log2f log2f128 log2f32 log2f32x log2f64 log2f64x log2l logb logbf logbf128 logbf32 logbf32x",
  "logbf64 logbf64x logbl logf logf128 logf32 logf32x logf64 logf64x logl lrint lrintf lrintf128",
  "lrintf32 lrintf32x lrintf64 lrintf64x lrintl lround lroundf lroundf128 lroundf32 lroundf32x",
  "lroundf64 lroundf64x lroundl modf modff modff128 modff32 modff32x modff64 modff64x modfl nan",
  "nanf nanf128 nanf32 nanf32x nanf64 nanf64x nanl nearbyint nearbyintf nearbyintf128",
  "nearbyintf32 nearbyintf32x nearbyintf64 nearbyintf64x nearbyintl nextafter nextafterf",
  "nextafterf128 nextafterf32 nextafterf32x nextafterf64 nextafterf64x nextafterl nextdown",
  "nextdownf nextdownf128 nextdownf32 nextdownf32x nextdownf64 nextdownf64x nextdownl nexttoward",
  "nexttowardf nexttowardl nextup nextupf nextupf128 nextupf32 nextupf32x nextupf64 nextupf64x",
  "nextupl pow powf powf128 powf32 powf32x powf64 powf64x powl remainder remainderf remainderf128",
  "remainderf32 remainderf32x remainderf64 remainderf64x remainderl remquo remquof remquof128",
  "remquof32 remquof32x remquof64 remquof64x remquol rint rintf rintf128 rintf32 rintf32x rintf64",
  "rintf64x rintl round roundeven roundevenf roundevenf128 roundevenf32 roundevenf32x",
  "roundevenf64 roundevenf64x roundevenl roundf roundf128 roundf32 roundf32x roundf64 roundf64x",
  "roundl scalb scalbf scalbl scalbln scalblnf scalblnf128 scalblnf32 scalblnf32x scalblnf64",
  "scalblnf64x scalblnl scalbn scalbnf scalbnf128 scalbnf32 scalbnf32x scalbnf64 scalbnf64x",
  "scalbnl setpayload setpayloadf setpayloadf128 setpayloadf32 setpayloadf32x setpayloadf64",
  "setpayloadf64x setpayloadl setpayloadsig setpayloadsigf setpayloadsigf128 setpayloadsigf32",
  "setpayloadsigf32x setpayloadsigf64 setpayloadsigf64x setpayloadsigl __signbit __signbitf",
  "__signbitf128 __signbitl __signgam signgam significand significandf significandl sin sincos",
  "sincosf sincosf128 sincosf32 sincosf32x sincosf64 sincosf64x sincosl sinf sinf128 sinf32",
  "sinf32x sinf64 sinf64x sinh sinhf sinhf128 sinhf32 sinhf32x sinhf64 sinhf64x sinhl sinl sqrt",
  "sqrtf sqrtf128 sqrtf32 sqrtf32x sqrtf64 sqrtf64x sqrtl tan tanf tanf128 tanf32 tanf32x tanf64",
  "tanf64x tanh tanhf tanhf128 tanhf32 tanhf32x tanhf64 tanhf64x tanhl tanl tgamma tgammaf",
  "tgammaf128 tgammaf32 tgammaf32x tgammaf64 tgammaf64x tgammal totalorder totalorderf",
  "totalorderf128 totalorderf32 totalorderf32x totalorderf64 totalorderf64x totalorderl",
  "totalordermag totalordermagf totalordermagf128 totalordermagf32 totalordermagf32x",
  "totalordermagf64 totalordermagf64x totalordermagl trunc truncf truncf128 truncf32 truncf32x",
  "truncf64 truncf64x truncl ufromfp ufromfpf ufromfpf128 ufromfpf32 ufromfpf32x ufromfpf64",
  "ufromfpf64x ufromfpl ufromfpx ufromfpxf ufromfpxf128 ufromfpxf32 ufromfpxf32x ufromfpxf64",
  "ufromfpxf64x ufromfpxl y0 y0f y0f128 y0f32 y0f32x y0f64 y0f64x y0l y1 y1f y1f128 y1f32 y1f32x",
  "y1f64 y1f64x y1l yn ynf ynf128 ynf32 ynf32x ynf64 ynf64x ynl"]

/-- Names in the library that supports compiled code. -/
def supportNames : List String := [
  "__absvdi2 __absvsi2 __absvti2 __addtf3 __addvdi3 __addvsi3 __addvti3 __ashlti3 __ashrti3",
  "__bswapdi2 __bswapsi2 __clear_cache __clrsbdi2 __clrsbti2 __clzdi2 __clzti2 __cmpti2 __ctzdi2",
  "__ctzti2 __deregister_frame __deregister_frame_info __deregister_frame_info_bases __divdc3",
  "__divhc3 __divmodbitint4 __divmodti4 __divsc3 __divtc3 __divtf3 __divti3 __divxc3",
  "__emutls_get_address __emutls_register_common __enable_execute_stack __eqhf2 __eqtf2",
  "__extendbfsf2 __extenddftf2 __extendhfdf2 __extendhfsf2 __extendhftf2 __extendhfxf2",
  "__extendsfdf2 __extendsftf2 __extendxftf2 __ffsdi2 __ffsti2 __fixdfbitint __fixdfti __fixhfti",
  "__fixsfbitint __fixsfti __fixtfbitint __fixtfdi __fixtfsi __fixtfti __fixunsdfdi __fixunsdfti",
  "__fixunshfti __fixunssfdi __fixunssfti __fixunstfdi __fixunstfsi __fixunstfti __fixunsxfdi",
  "__fixunsxfti __fixxfbitint __fixxfti __floatbitintbf __floatbitintdf __floatbitinthf",
  "__floatbitintsf __floatbitinttf __floatbitintxf __floatditf __floatsitf __floattibf",
  "__floattidf __floattihf __floattisf __floattitf __floattixf __floatunditf __floatunsitf",
  "__floatuntibf __floatuntidf __floatuntihf __floatuntisf __floatuntitf __floatuntixf",
  "__gcc_nested_func_ptr_created __gcc_nested_func_ptr_deleted __gcc_personality_v0 __getf2",
  "__gttf2 __hardcfr_check __letf2 __lshrti3 __lttf2 __modti3 __mulbitint3 __muldc3 __mulhc3",
  "__mulsc3 __multc3 __multf3 __multi3 __mulvdi3 __mulvsi3 __mulvti3 __mulxc3 __negtf2 __negti2",
  "__negvdi2 __negvsi2 __negvti2 __nehf2 __netf2 __paritydi2 __parityti2 __popcountdi2",
  "__popcountti2 __powidf2 __powisf2 __powitf2 __powixf2 __register_frame __register_frame_info",
  "__register_frame_info_bases __register_frame_info_table __register_frame_info_table_bases",
  "__register_frame_table __strub_enter __strub_leave __strub_update __subtf3 __subvdi3 __subvsi3",
  "__subvti3 __truncdfbf2 __truncdfhf2 __truncdfsf2 __trunchfbf2 __truncsfbf2 __truncsfhf2",
  "__trunctfbf2 __trunctfdf2 __trunctfhf2 __trunctfsf2 __trunctfxf2 __truncxfbf2 __truncxfhf2",
  "__ucmpti2 __udivmodti4 __udivti3 __umodti3 __unordtf2 _Unwind_Backtrace",
  "_Unwind_DeleteException _Unwind_Find_FDE _Unwind_FindEnclosingFunction _Unwind_ForcedUnwind",
  "_Unwind_GetCFA _Unwind_GetDataRelBase _Unwind_GetGR _Unwind_GetIP _Unwind_GetIPInfo",
  "_Unwind_GetLanguageSpecificData _Unwind_GetRegionStart _Unwind_GetTextRelBase",
  "_Unwind_RaiseException _Unwind_Resume _Unwind_Resume_or_Rethrow _Unwind_SetGR _Unwind_SetIP"]

/-- Names in the library that looks up addresses. -/
def resolverNames : List String := [
  "__b64_ntop __b64_pton __dn_count_labels __fp_nquery __fp_query __fp_resstat _getlong _getshort",
  "__hostalias inet_net_ntop inet_net_pton inet_neta __loc_aton __loc_ntoa ns_datetosecs",
  "ns_format_ttl ns_get16 ns_get32 ns_initparse ns_makecanon ns_msg_getflag ns_name_ntol",
  "ns_name_rollback ns_parse_ttl ns_parserr ns_put16 ns_put32 ns_samedomain ns_samename ns_skiprr",
  "ns_sprintrr ns_sprintrrf ns_subdomain __p_cdname __p_cdnname __p_class __p_class_syms",
  "__p_fqname __p_fqnname __p_option __p_query __p_rcode __p_time __p_type __p_type_syms",
  "__putlong __putshort __res_close __res_hostalias __res_isourserver __res_nameinquery",
  "_res_opcodes __res_queriesmatch __sym_ntop __sym_ntos __sym_ston"]

/-- Names in the library that loads the others. -/
def loaderNames : List String := [
  "_dl_mcount __libc_stack_end _r_debug __rseq_flags __rseq_offset __rseq_size __tls_get_addr"]

end PluginHost.Library
