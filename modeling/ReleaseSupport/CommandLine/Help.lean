/-!
The texts that the command line shows about itself.
-/

set_option autoImplicit false
set_option relaxedAutoImplicit false

namespace ReleaseSupport.CommandLine

def programName : String := "release-eol"

def versionText : String := programName ++ " 0.1.0\n"

def helpLines : List String := [
  "Get the currently supported versions for GitHub repositories",
  "",
  "Usage: release-eol [OPTIONS] --repo <OWNER/REPO>",
  "",
  "Options:",
  "  -R, --repo <OWNER/REPO>    Repository in the format owner/repo; repeat to query several repositories",
  "  -d, --display              Display supported versions with their release dates (default)",
  "      --no-display           Do not display supported versions with their release dates",
  "  -D, --doc                  Print the docker image of each supported version",
  "      --json                 Print the results as JSON instead of text",
  "  -L, --limit <N>            Maximum number of releases to fetch per repository",
  "      --max-age <DAYS>       Days a minor line is supported after its first release [default: 365]",
  "      --patch-window <DAYS>  Days an older minor line stays supported after its latest patch release [default: 90]",
  "  -v, --verbose              Make the operation more talkative",
  "  -h, --help                 Print help",
  "  -V, --version              Print version",
  "",
  "A minor line is supported while it is the newest one, while its first release is younger than --max-age days, or while its latest patch release is younger than --patch-window days.",
  "",
  "Example:",
  "  release-eol -R kubernetes-csi/external-attacher -R kubernetes-csi/external-provisioner --doc"]

def helpText : String := String.join (helpLines.map (· ++ "\n"))

end ReleaseSupport.CommandLine
