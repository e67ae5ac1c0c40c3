import GridRobot.Text.Basic

/-! # Pages of help

The program and each of its commands have a page of help, which says how to call it, what it does
and which options it takes. -/

namespace GridRobot.CommandLine

inductive Page where
  | program
  | explain
  | run
  deriving DecidableEq, Repr

namespace Page

/-- The words that call what the page is about. -/
def call : Page → Text
  | program => "robot-movement".toList
  | explain => "robot-movement explain".toList
  | run => "robot-movement run".toList

/-- What follows the words of a call. -/
def form : Page → Text
  | program => "[OPTIONS] COMMAND [ARGS]...".toList
  | explain => "[OPTIONS] COMMANDS...".toList
  | run => "[OPTIONS] INPUT_PATH OUTPUT_PATH".toList

def usage (p : Page) : Text :=
  "Usage: ".toList ++ p.call ++ ' ' :: p.form

/-- The lines below the usage. -/
def body : Page → List String
  | program => [
    "  Validate, auto-correct and execute robot movement commands.",
    "",
    "Options:",
    "  --config FILE                   YAML file with run settings.",
    "  --log-level [debug|info|warning|error|critical]",
    "                                  Diagnostic log level (overrides the config",
    "                                  file).",
    "  --help                          Show this message and exit.",
    "",
    "Commands:",
    "  explain  Process COMMANDS in one run and print every log entry.",
    "  run      Process the commands in INPUT_PATH and write the log to..."]
  | explain => [
    "  Process COMMANDS in one run and print every log entry.",
    "",
    "Options:",
    "  --help  Show this message and exit."]
  | run => [
    "  Process the commands in INPUT_PATH and write the log to OUTPUT_PATH.",
    "",
    "Options:",
    "  --help  Show this message and exit."]

def text (p : Page) : Text :=
  (p.usage :: [] :: p.body.map String.toList).flatMap (· ++ ['\n'])

end Page

end GridRobot.CommandLine
