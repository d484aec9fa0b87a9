import ComponentAudit.CommandLine.Arguments

/-!
# Help

What is said about the commands and their options.
-/

namespace ComponentAudit.CommandLine

/-- The name and the version of the program. -/
def versionLine : String := "migration-guard 0.1.0"

/-- The help for what comes before a command. -/
def topHelp : List String := [
  "CLI tool for validating a project after a component migration",
  "",
  "Usage: migration-guard [OPTIONS] <COMMAND>",
  "",
  "Commands:",
  "  check       Validate a project tree",
  "  list-rules  List the active rules",
  "  init        Initialize configuration file",
  "  help        Print this message or the help of the given subcommand(s)",
  "",
  "Options:",
  "  -v, --verbose          Enable verbose output",
  "  -c, --config <CONFIG>  Path to configuration file",
  "  -h, --help             Print help",
  "  -V, --version          Print version"]

/-- The help for a check, in short. -/
def checkHelp : List String := [
  "Validate a project tree",
  "",
  "Usage: migration-guard check [OPTIONS] [PATH]",
  "",
  "Arguments:",
  "  [PATH]  Project root (default: `[scan] root` from config, else current directory)",
  "",
  "Options:",
  "  -f, --format <FORMAT>    Output format [default: text] [possible values: text, json, compact, rich]",
  "  -v, --verbose            Enable verbose output",
  "  -c, --config <CONFIG>    Path to configuration file",
  "      --rules <RULES>      Only run specific rules (comma-separated IDs)",
  "  -e, --exclude <EXCLUDE>  Exclude glob patterns (can be specified multiple times)",
  "      --session <SESSION>  Migration session to associate the report with",
  "  -o, --output <OUTPUT>    Also write the JSON report to this file",
  "  -j, --jobs <JOBS>        Number of worker threads",
  "  -h, --help               Print help (see more with '--help')"]

/-- The help for a check, in full: it says what the formats are. -/
def fullCheckHelp : List String := [
  "Validate a project tree",
  "",
  "Usage: migration-guard check [OPTIONS] [PATH]",
  "",
  "Arguments:",
  "  [PATH]",
  "          Project root (default: `[scan] root` from config, else current directory)",
  "",
  "Options:",
  "  -f, --format <FORMAT>",
  "          Output format",
  "          ",
  "          [default: text]",
  "",
  "          Possible values:",
  "          - text:    Human-readable issues followed by the report digest",
  "          - json:    The full report as JSON",
  "          - compact: One line per issue and nothing else; no digest",
  "          - rich:    Source snippets rendered through miette, then the digest",
  "",
  "  -v, --verbose",
  "          Enable verbose output",
  "",
  "  -c, --config <CONFIG>",
  "          Path to configuration file",
  "",
  "      --rules <RULES>",
  "          Only run specific rules (comma-separated IDs)",
  "",
  "  -e, --exclude <EXCLUDE>",
  "          Exclude glob patterns (can be specified multiple times)",
  "",
  "      --session <SESSION>",
  "          Migration session to associate the report with",
  "",
  "  -o, --output <OUTPUT>",
  "          Also write the JSON report to this file",
  "",
  "  -j, --jobs <JOBS>",
  "          Number of worker threads",
  "",
  "  -h, --help",
  "          Print help (see a summary with '-h')"]

/-- The help for a listing of the rules. -/
def listRulesHelp : List String := [
  "List the active rules",
  "",
  "Usage: migration-guard list-rules [OPTIONS]",
  "",
  "Options:",
  "  -v, --verbose          Enable verbose output",
  "  -c, --config <CONFIG>  Path to configuration file",
  "  -h, --help             Print help"]

/-- The help for a configuration to start from. -/
def initHelp : List String := [
  "Initialize configuration file",
  "",
  "Usage: migration-guard init [OPTIONS]",
  "",
  "Options:",
  "      --force            Overwrite existing config",
  "  -v, --verbose          Enable verbose output",
  "  -c, --config <CONFIG>  Path to configuration file",
  "  -h, --help             Print help"]

/-- The help for the command that asks for help. -/
def helpHelp : List String := [
  "Print this message or the help of the given subcommand(s)",
  "",
  "Usage: migration-guard help [COMMAND]...",
  "",
  "Arguments:",
  "  [COMMAND]...  Print help for the subcommand(s)"]

/-- The help for a topic. Only for a check is there more to say in full. -/
def helpOf : HelpTopic → List String
  | .level .top _ => topHelp
  | .level .check full => if full then fullCheckHelp else checkHelp
  | .level .listRules _ => listRulesHelp
  | .level .init _ => initHelp
  | .help => helpHelp

end ComponentAudit.CommandLine
