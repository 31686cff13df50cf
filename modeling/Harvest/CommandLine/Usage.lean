import Harvest.CommandLine.Arguments

/-!
What the program says about its own use.
-/

namespace Harvest.UsageFault

/-- The version of the program. -/
def versionText : String := "instaloader 0.1.0"

/-- How the program is called. -/
def helpText : String :=
  "\n".intercalate
    ["Batch download posts, stories and profiles with filter expressions and persisted sessions",
      "",
      "Usage: instaloader [OPTIONS] [TARGET]...",
      "",
      "Arguments:",
      "  [TARGET]...  profile | #hashtag | @account | :feed | :stories | :saved | file.json",
      "",
      "Options:",
      "  -v, --verbose                      Increase output verbosity",
      "  -q, --quiet                        Disable user interaction and non-error output",
      "  -l, --login <NAME>                 Log in as this account",
      "  -p, --password <PASSWORD>          Password for --login",
      "  -f, --sessionfile <PATH>           Session file instead of the per-account default",
      "      --post-filter <EXPR>           Only download posts for which EXPR holds",
      "      --storyitem-filter <EXPR>      Only download story items for which EXPR holds",
      "  -F, --fast-update                  Stop at the first already downloaded item",
      "  -c, --count <N>                    Download at most this many posts per listing",
      "      --no-profile-pic               Do not download profile pictures",
      "      --profile-pic-only             Only download profile pictures",
      "  -s, --stories                      Also download stories of each profile",
      "      --stories-only                 Only download stories of each profile",
      "      --max-connection-attempts <N>  Attempts per request, 0 for no limit [default: 3]",
      "      --user-agent <AGENT>           User-Agent header sent to the retrieval service",
      "      --endpoint <URL>               Base URL of the retrieval service",
      "  -h, --help                         Print help",
      "  -V, --version                      Print version"]

/-- What is said about a command line that is not carried out. -/
def message : UsageFault → String
  | .unknownOption => "error: unexpected argument"
  | .missingValue => "error: a value is required"
  | .invalidValue => "error: invalid value"
  | .unwantedValue => "error: unexpected value"
  | .conflict => "error: the argument cannot be used with the others"
  | .help => helpText
  | .version => versionText

/-- Help and version are answers, and everything else is an error of use. -/
def exitCode : UsageFault → UInt32
  | .help | .version => 0
  | _ => 2

end Harvest.UsageFault
