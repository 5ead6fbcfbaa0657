/-!
The texts that explain the command line.
-/

namespace JoinEngine.Command

def versionText : String := "jetsql 0.1.0\n"

private def helpHead : String :=
  "Run a join job described in JSON\n\nUsage: jetsql [OPTIONS] <JOB>\n\nArguments:\n"

def shortHelp : String :=
  helpHead ++ String.intercalate "\n" [
    "  <JOB>  Path to the job file",
    "",
    "Options:",
    "      --format <FORMAT>",
    "          Output format [default: table] [possible values: table, json, csv]",
    "      --partitions <PARTITIONS>",
    "          Split the source into this many partitions [default: 1]",
    "      --parallelism <PARALLELISM>",
    "          Worker threads for partitioned execution (defaults to available cores)",
    "      --max-build-rows <MAX_BUILD_ROWS>",
    "          Maximum rows materialized from one right relation",
    "      --unlimited-build",
    "          Remove the build-side row limit",
    "      --member-id <MEMBER_ID>",
    "          Member id used to issue the query id [default: 0]",
    "      --explain",
    "          Print the plan explanation instead of running the job",
    "  -h, --help",
    "          Print help (see more with '--help')",
    "  -V, --version",
    "          Print version",
    ""]

def longHelp : String :=
  helpHead ++ String.intercalate "\n" [
    "  <JOB>",
    "          Path to the job file",
    "",
    "Options:",
    "      --format <FORMAT>",
    "          Output format",
    "",
    "          Possible values:",
    "          - table: ASCII table format",
    "          - json:  JSON format",
    "          - csv:   CSV format",
    "          ",
    "          [default: table]",
    "",
    "      --partitions <PARTITIONS>",
    "          Split the source into this many partitions",
    "          ",
    "          [default: 1]",
    "",
    "      --parallelism <PARALLELISM>",
    "          Worker threads for partitioned execution (defaults to available cores)",
    "",
    "      --max-build-rows <MAX_BUILD_ROWS>",
    "          Maximum rows materialized from one right relation",
    "",
    "      --unlimited-build",
    "          Remove the build-side row limit",
    "",
    "      --member-id <MEMBER_ID>",
    "          Member id used to issue the query id",
    "          ",
    "          [default: 0]",
    "",
    "      --explain",
    "          Print the plan explanation instead of running the job",
    "",
    "  -h, --help",
    "          Print help (see a summary with '-h')",
    "",
    "  -V, --version",
    "          Print version",
    ""]

end JoinEngine.Command
