/-
# Help texts

The texts that explain the command line, for a terminal of eighty columns.

Key definitions: `Topic`, `Topic.program`, `Topic.help`.
-/

namespace StyleCheck.Command

/-- What a help text is about: the program, or one of its commands. -/
inductive Topic where
  | general
  | check
  | rules
  deriving DecidableEq, Repr, Inhabited

namespace Topic

/-- The name of the program, with that of the command. -/
def program : Topic → String
  | general => "cubtek-check"
  | check => "cubtek-check check"
  | rules => "cubtek-check rules"

/-- The lines of a help text. -/
def helpLines : Topic → List String
  | general =>
    ["usage: cubtek-check [-h] [--log-level \x7bdebug,info,warning,error\x7d]",
     "                    [--config CONFIG]",
     "                    \x7bcheck,rules\x7d ...",
     "",
     "CubTEK C/C++ coding standard checker",
     "",
     "positional arguments:",
     "  \x7bcheck,rules\x7d",
     "    check               Check C/C++ files against the CubTEK coding standard.",
     "    rules               List the registered rules and their configuration.",
     "",
     "options:",
     "  -h, --help            show this help message and exit",
     "  --log-level \x7bdebug,info,warning,error\x7d",
     "                        Logging verbosity written to stderr.",
     "  --config CONFIG       Configuration file; defaults to .cubtek.json",
     "                        discovered in the working directory."]
  | check =>
    ["usage: cubtek-check check [-h] [--config CONFIG] [--no-external]",
     "                          [--clang-tidy-bin CLANG_TIDY_BIN]",
     "                          [--timeout TIMEOUT]",
     "                          [--min-severity \x7berror,warning,information,hint\x7d]",
     "                          [--rule RULES]",
     "                          [--fail-on \x7berror,warning,information,hint\x7d]",
     "                          [--format \x7btable,json\x7d]",
     "                          [paths ...]",
     "",
     "positional arguments:",
     "  paths                 Files or directories to check. Directories are",
     "                        searched recursively.",
     "",
     "options:",
     "  -h, --help            show this help message and exit",
     "  --config CONFIG       Configuration file; overrides a --config given before",
     "                        the subcommand.",
     "  --no-external         Do not run clang-tidy; only the built-in rules are",
     "                        applied.",
     "  --clang-tidy-bin CLANG_TIDY_BIN",
     "                        Name or path of the clang-tidy executable.",
     "  --timeout TIMEOUT     Seconds to wait for clang-tidy on each file.",
     "  --min-severity \x7berror,warning,information,hint\x7d",
     "                        Only report diagnostics at or above this severity.",
     "  --rule RULES          Only report diagnostics whose rule id contains this",
     "                        text. Repeatable.",
     "  --fail-on \x7berror,warning,information,hint\x7d",
     "                        Fail the run when diagnostics at or above the provided",
     "                        severity are present.",
     "  --format \x7btable,json\x7d",
     "                        Output format for check results."]
  | rules =>
    ["usage: cubtek-check rules [-h] [--config CONFIG]",
     "",
     "options:",
     "  -h, --help       show this help message and exit",
     "  --config CONFIG  Configuration file; overrides a --config given before the",
     "                   subcommand."]

/-- A help text. -/
def help (topic : Topic) : String :=
  String.intercalate "\n" topic.helpLines ++ "\n"

end Topic

end StyleCheck.Command
