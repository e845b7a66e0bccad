import CriticalCss.CommandLine.Flag
import CriticalCss.Text.Quoted

/-!
# Usage

What the command line says about itself, and about words that it cannot make sense of.
-/

namespace CriticalCss.CommandLine

/-- Lines, each with its end. -/
def unlines (lines : List String) : String := String.join (lines.map (· ++ "\n"))

/-- How the command is called. -/
def usage : String := unlines [
  "usage: foldline [-h] [--width WIDTH] [--height HEIGHT] [--force-include JSON]",
  "                [--user-agent USER_AGENT] [--render-wait-ms RENDER_WAIT_MS]",
  "                [--no-block-js] [--headers JSON] [--timeout-ms TIMEOUT_MS]",
  "                [--headed] [--debug] [--json-logs]",
  "                url ast_file"]

/-- The explanation of the command. -/
def help : String := usage ++ unlines [
  "",
  "Extract the CSS rules needed to render the above-the-fold part of a page.",
  "",
  "positional arguments:",
  "  url                   Page to measure",
  "  ast_file              JSON stylesheet AST (\x7b'stylesheet': \x7b'rules': [...]\x7d\x7d)",
  "",
  "options:",
  "  -h, --help            show this help message and exit",
  "  --width WIDTH         Viewport width (default: 1300)",
  "  --height HEIGHT       Viewport height (default: 900)",
  "  --force-include JSON  JSON list of selectors always kept: \"sel\" or \x7b\"type\":",
  "                        \"RegExp\", \"value\": \"pattern\"\x7d",
  "  --user-agent USER_AGENT",
  "                        User agent for the page request",
  "  --render-wait-ms RENDER_WAIT_MS",
  "                        Settle delay before classifying (default: 100)",
  "  --no-block-js         Let the page load its scripts (blocked by default)",
  "  --headers JSON        JSON object of extra HTTP request headers",
  "  --timeout-ms TIMEOUT_MS",
  "                        Navigation timeout (default: 30000)",
  "  --headed              Show the browser window",
  "  --debug               Verbose debug log on stderr",
  "  --json-logs           Log as JSON lines",
  "",
  "examples:",
  "  foldline https://example.com ast.json                      Desktop viewport",
  "  foldline https://example.com ast.json --width 375 --height 667",
  "  foldline https://example.com ast.json --force-include " ++
    "'[\".nav\", \x7b\"type\": \"RegExp\", \"value\": \"^\\\\.btn-\"\x7d]'"]

/-- Why a command line makes no sense. -/
inductive Misuse where
  | ambiguous (ambiguity : Ambiguity)
  | valueExpected (flag : Flag)
  | valueNotExpected (flag : Flag) (value : String)
  | notWhole (flag : Flag) (value : String)
  | missing (operands : List String)
  | unrecognized (words : List String)
  deriving DecidableEq

namespace Misuse

/-- A message about one flag. -/
def about (flag : Flag) (message : String) : String := s!"argument {flag.name}: {message}"

/-- A description of the misuse. -/
def message : Misuse → String
  | ambiguous ambiguity =>
    s!"ambiguous option: {ambiguity.text} could match " ++
      ", ".intercalate ambiguity.spellings
  | valueExpected flag => about flag "expected one argument"
  | valueNotExpected flag value => about flag s!"ignored explicit argument {Text.quoted value}"
  | notWhole flag value => about flag s!"invalid int value: {Text.quoted value}"
  | missing operands => "the following arguments are required: " ++ ", ".intercalate operands
  | unrecognized words => "unrecognized arguments: " ++ " ".intercalate words

/-- What is written about the misuse. -/
def text (misuse : Misuse) : String := usage ++ s!"foldline: error: {misuse.message}\n"

end Misuse

end CriticalCss.CommandLine
