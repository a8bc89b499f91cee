/-! # Help

The name and version of the program, and the text that explains its use. -/

namespace ChildWatch.CommandLine

/-- The program's name. -/
def programName : String := "procwatch"

/-- The program's version. -/
def version : String := "0.1.0"

/-- The line that names the version. -/
def versionLine : String := programName ++ " v" ++ version ++ "\n"

/-- The lines of the help after the first. -/
def helpLines : List String :=
  ["",
   "USAGE:",
   "    procwatch [OPTIONS] -- PROGRAM [ARGS...]",
   "",
   "OPTIONS:",
   "    -c, --config <PATH>      Configuration file (TOML)",
   "    -w, --wait <PATTERN>     Wait for PATTERN on stdout (repeatable, in order)",
   "    -r, --regex              Treat patterns as regular expressions",
   "    -t, --timeout <SECS>     Budget for each wait",
   "        --hold <SECS>        Keep the program running after the last match",
   "        --traces <MODE>      Print captured output: none, target, all",
   "    -d, --debug              Enable debug logging",
   "    -h, --help               Print help information",
   "    -v, --version            Print version information",
   "",
   "EXIT CODES:",
   "    0  every pattern was seen",
   "    1  launch, configuration or usage error",
   "    2  a pattern did not appear in time",
   "",
   "ENVIRONMENT:",
   "    PROCWATCH_CONFIG       Configuration file path",
   "    PROCWATCH_DEBUG        Enable debug mode (1 or true)",
   "    RUST_LOG               Set logging level (error, warn, info, debug, trace)"]

/-- The help. -/
def help : String := versionLine ++ String.join (helpLines.map (· ++ "\n"))

end ChildWatch.CommandLine
