import Parley.Console.Arguments

/-!
# Parley.Console.Help

What the program says about itself.
-/

namespace Parley

namespace Topic

/-- The lines of help on a topic. -/
def helpLines : Topic → List String
  | program => [
    "Assemble and drive conversational flows",
    "",
    "Usage: sluice-cli [OPTIONS] --flow <FLOWS> <COMMAND>",
    "",
    "Commands:",
    "  check  Assemble every flow and list its states",
    "  run    Launch a flow and resume it with events read from stdin",
    "  help   Print this message or the help of the given subcommand(s)",
    "",
    "Options:",
    "  -f, --flow <FLOWS>     Flow model files (.json, .yaml, .toml). Ids come from the model or "
      ++ "the file stem",
    "      --config <CONFIG>  ",
    "  -h, --help             Print help"]
  | check => [
    "Assemble every flow and list its states",
    "",
    "Usage: sluice-cli --flow <FLOWS> check",
    "",
    "Options:",
    "  -h, --help  Print help"]
  | run => [
    "Launch a flow and resume it with events read from stdin",
    "",
    "Usage: sluice-cli --flow <FLOWS> run [OPTIONS] <FLOW_ID>",
    "",
    "Arguments:",
    "  <FLOW_ID>  ",
    "",
    "Options:",
    "      --input <KEY=VALUE>  ",
    "  -h, --help               Print help"]

def help (topic : Topic) : String := String.join (topic.helpLines.map (· ++ "\n"))

end Topic

end Parley
