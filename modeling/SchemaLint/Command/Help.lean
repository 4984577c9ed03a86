/-!
# Help

What the program says about how it is used.
-/

namespace SchemaLint.Help

/-- Some lines of text. -/
def lines (ls : List String) : String := String.join (ls.map (· ++ "\n"))

/-- How the program is asked for. -/
def programUsage : String :=
  lines [
    "usage: gqlstyle [-h] [--version] [-v] <command> ..."]

/-- Everything that the program can be told. -/
def programHelp : String :=
  programUsage ++ lines [
    "",
    "gqlstyle: GraphQL schema convention linter.",
    "",
    "Checks an SDL document against naming and shape conventions",
    "and reports every violation in one pass.",
    "",
    "options:",
    "  -h, --help     show this help message and exit",
    "  --version      show program's version number and exit",
    "  -v, --verbose  Increase verbosity (-v info, -vv debug).",
    "",
    "commands:",
    "  <command>",
    "    check (lint)",
    "                 Lint a GraphQL schema.",
    "    rules        List the rule catalog.",
    "    init         Write a commented default configuration file.",
    "",
    "examples:",
    "  gqlstyle check schema.graphql",
    "  gqlstyle check schema.graphql --format sarif -o gqlstyle.sarif",
    "  gqlstyle check - < schema.graphql",
    "  gqlstyle rules",
    "  gqlstyle init"]

/-- How checking is asked for. -/
def checkUsage : String :=
  lines [
    "usage: gqlstyle check [-h] [-o FILE] [-f \x7btext,json,jsonl,sarif,html\x7d]",
    "                      [--config PATH] [--color \x7bauto,always,never\x7d]",
    "                      [--no-color] [-q] [--disable RULE]",
    "                      [--severity RULE=LEVEL] [--verb VERB] [--allow FIELD]",
    "                      [--boolean-prefix \x7bignore,require,forbid\x7d] [-j N]",
    "                      SCHEMA"]

/-- Everything that checking can be told. -/
def checkHelp : String :=
  checkUsage ++ lines [
    "",
    "Parse an SDL document, run every enabled rule and report the diagnostics.",
    "Exits 1 when any Error is reported.",
    "",
    "positional arguments:",
    "  SCHEMA                Schema file (\"-\" for stdin).",
    "",
    "options:",
    "  -h, --help            show this help message and exit",
    "  -o FILE, --output FILE",
    "                        Output file (\"-\" or omit for stdout).",
    "  -f \x7btext,json,jsonl,sarif,html\x7d, --format \x7btext,json,jsonl,sarif,html\x7d",
    "                        Output format (default: text).",
    "  --config PATH         Configuration file (default: $GQLSTYLE_CONFIG or",
    "                        ./.gqlstyle.yml).",
    "  --color \x7bauto,always,never\x7d",
    "                        Colourise text output (default: auto, honours",
    "                        NO_COLOR).",
    "  --no-color            Same as --color never.",
    "  -q, --quiet           Do not print the summary line on stderr.",
    "",
    "rule tuning (overrides the config file):",
    "  --disable RULE        Disable a rule (repeatable).",
    "  --severity RULE=LEVEL",
    "                        Override a rule's severity: error or warning",
    "                        (repeatable).",
    "  --verb VERB           Accept an additional mutation verb (repeatable).",
    "  --allow FIELD         Exempt a field name from FieldRedundantName",
    "                        (repeatable).",
    "  --boolean-prefix \x7bignore,require,forbid\x7d",
    "                        Boolean field naming policy.",
    "  -j N, --jobs N        Worker threads used to run the rules."]

/-- How listing rules is asked for. -/
def rulesUsage : String :=
  lines [
    "usage: gqlstyle rules [-h] [-f \x7btext,json\x7d] [-o FILE]"]

/-- Everything that listing rules can be told. -/
def rulesHelp : String :=
  rulesUsage ++ lines [
    "",
    "options:",
    "  -h, --help            show this help message and exit",
    "  -f \x7btext,json\x7d, --format \x7btext,json\x7d",
    "                        Output format (default: text).",
    "  -o FILE, --output FILE",
    "                        Output file (\"-\" or omit for stdout)."]

/-- How writing a configuration is asked for. -/
def initUsage : String :=
  lines [
    "usage: gqlstyle init [-h] [-o FILE] [--force]"]

/-- Everything that writing a configuration can be told. -/
def initHelp : String :=
  initUsage ++ lines [
    "",
    "options:",
    "  -h, --help            show this help message and exit",
    "  -o FILE, --output FILE",
    "                        Destination (default: .gqlstyle.yml).",
    "  --force               Overwrite an existing file."]

end SchemaLint.Help
