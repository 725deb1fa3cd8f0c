import PluginHost.Library.Routine

/-!
# Routines by name

The names under which the C library exports the routines that machine code can call. Some names have
a checked form, which knows more of its arguments and does the same.
-/

namespace PluginHost.Library

def memoryRoutines : List (String × Routine) :=
  [("memcpy", .copyBytes .start), ("memmove", .copyBytes .start), ("mempcpy", .copyBytes .finish),
    ("__mempcpy", .copyBytes .finish), ("__memcpy_chk", .copyBytes .start),
    ("__memmove_chk", .copyBytes .start), ("__mempcpy_chk", .copyBytes .finish),
    ("memset", .fillBytes), ("__memset_chk", .fillBytes), ("bzero", .clearBytes),
    ("explicit_bzero", .clearBytes), ("memcmp", .compareBytes), ("bcmp", .compareBytes),
    ("memchr", .findByte), ("memrchr", .findByteBackward), ("rawmemchr", .findByteSurely),
    ("__rawmemchr", .findByteSurely), ("malloc", .allocate), ("calloc", .allocateCleared),
    ("realloc", .reallocate), ("free", .release), ("cfree", .release)]

def stringRoutines : List (String × Routine) :=
  [("strlen", .length), ("strnlen", .boundedLength), ("strcmp", .compare ⟨false, false⟩),
    ("strcoll", .compare ⟨false, false⟩), ("strncmp", .compare ⟨false, true⟩),
    ("strcasecmp", .compare ⟨true, false⟩), ("__strcasecmp", .compare ⟨true, false⟩),
    ("strncasecmp", .compare ⟨true, true⟩), ("strchr", .search .firstByte),
    ("index", .search .firstByte), ("strrchr", .search .lastByte), ("rindex", .search .lastByte),
    ("strchrnul", .search .byteOrEnd), ("strstr", .search (.firstString false)),
    ("strcasestr", .search (.firstString true)), ("strpbrk", .search .anyOf),
    ("strspn", .span true), ("strcspn", .span false), ("strcpy", .copy .start),
    ("__strcpy_chk", .copy .start),
    ("stpcpy", .copy .finish), ("__stpcpy", .copy .finish), ("__stpcpy_chk", .copy .finish),
    ("strncpy", .boundedCopy .start), ("__strncpy_chk", .boundedCopy .start),
    ("stpncpy", .boundedCopy .finish), ("__stpncpy", .boundedCopy .finish), ("strcat", .append),
    ("__strcat_chk", .append), ("strncat", .boundedAppend), ("__strncat_chk", .boundedAppend),
    ("strdup", .duplicate), ("__strdup", .duplicate), ("strndup", .boundedDuplicate),
    ("__strndup", .boundedDuplicate), ("strtok", .nextToken false), ("strtok_r", .nextToken true),
    ("__strtok_r", .nextToken true)]

def numberRoutines : List (String × Routine) :=
  [("atoi", .toNumber), ("atol", .toNumber), ("atoll", .toNumber), ("strtol", .readNumber true),
    ("strtoll", .readNumber true), ("strtoimax", .readNumber true), ("strtoul", .readNumber false),
    ("strtoull", .readNumber false), ("strtoumax", .readNumber false), ("abs", .absolute false),
    ("labs", .absolute true), ("llabs", .absolute true)]

def characterRoutines : List (String × Routine) :=
  [("isalnum", .classify .alphanumeric), ("isalpha", .classify .alphabetic),
    ("isascii", .classify .ascii), ("isblank", .classify .blank),
    ("iscntrl", .classify .control), ("isdigit", .classify .digit), ("isgraph", .classify .graphic),
    ("islower", .classify .small), ("isprint", .classify .printable),
    ("ispunct", .classify .punctuation), ("isspace", .classify .space),
    ("isupper", .classify .capital), ("isxdigit", .classify .hexadecimal),
    ("tolower", .changeCase .small), ("toupper", .changeCase .capital),
    ("__ctype_b_loc", .characterTable .classes), ("__ctype_tolower_loc", .characterTable .small),
    ("__ctype_toupper_loc", .characterTable .capital)]

def outputRoutines : List (String × Routine) :=
  [("write", .writeFile), ("__write", .writeFile), ("read", .readFile), ("__read", .readFile),
    ("puts", .putLine), ("putchar", .putByte), ("putchar_unlocked", .putByte), ("putc", .putByteTo),
    ("fputc", .putByteTo), ("_IO_putc", .putByteTo), ("putc_unlocked", .putByteTo),
    ("fputc_unlocked", .putByteTo), ("fputs", .putString), ("fputs_unlocked", .putString),
    ("fwrite", .putBytes), ("fwrite_unlocked", .putBytes), ("fflush", .flush),
    ("fflush_unlocked", .flush)]

def printingRoutines : List (String × Routine) :=
  [("printf", .print .output false false), ("_IO_printf", .print .output false false),
    ("__printf_chk", .print .output true false), ("fprintf", .print .stream false false),
    ("__fprintf_chk", .print .stream true false), ("dprintf", .print .file false false),
    ("__dprintf_chk", .print .file true false), ("sprintf", .print (.memory false) false false),
    ("__sprintf_chk", .print (.memory false) true false),
    ("snprintf", .print (.memory true) false false),
    ("__snprintf_chk", .print (.memory true) true false), ("vprintf", .print .output false true),
    ("__vprintf_chk", .print .output true true), ("vfprintf", .print .stream false true),
    ("__vfprintf_chk", .print .stream true true), ("vdprintf", .print .file false true),
    ("__vdprintf_chk", .print .file true true), ("vsprintf", .print (.memory false) false true),
    ("__vsprintf_chk", .print (.memory false) true true),
    ("vsnprintf", .print (.memory true) false true),
    ("__vsnprintf_chk", .print (.memory true) true true)]

def processRoutines : List (String × Routine) :=
  [("exit", .exit), ("_exit", .exitAtOnce), ("_Exit", .exitAtOnce),
    ("quick_exit", .exitAtOnce), ("__cxa_atexit", .addFarewell), ("__cxa_finalize", .bidFarewell),
    ("abort", .abort), ("__stack_chk_fail", .abort), ("__chk_fail", .abort),
    ("__assert_fail", .abort), ("__errno_location", .errorPlace), ("getenv", .variable),
    ("secure_getenv", .variable), ("__secure_getenv", .variable)]

/-- The routines by name. -/
def standardRoutines : List (String × Routine) :=
  memoryRoutines ++ stringRoutines ++ numberRoutines ++ characterRoutines ++ outputRoutines ++
    printingRoutines ++ processRoutines

end PluginHost.Library
