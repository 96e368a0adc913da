import Jobflow.Text.Cut

/-!
# Usage

What the program prints about itself.
-/

namespace Jobflow.Command

/-- The forms of a command line. -/
def usageLines : List String :=
  [
    "Usage:",
    "  hadoopdsl build [-rp PROJECT] [-o OPTION ...] PATH",
    "  hadoopdsl info [-p PROJECT] [-o OPTION ...] [WORKFLOW]",
    "  hadoopdsl upload [-cp PROJECT] [-a ALIAS | -u URL] [-o OPTION ...]",
    "  hadoopdsl status [-p PROJECT] [-a ALIAS | -u URL] [-d | -f FLOWS]",
    "  hadoopdsl -h | --help | -l | --log | -v | --version"
  ]

/-- The commands, arguments and options, and where defaults come from. -/
def detailLines : List String :=
  [
    "Commands:",
    "  build*                        Compile the project's workflows and write the",
    "                                archive to PATH.",
    "  info*                         Print the compiled flow definitions.",
    "  upload*                       Compile the project's workflows and upload the",
    "                                archive to Azkaban.",
    "  status                        Show the latest execution of each of the",
    "                                project's flows.",
    "",
    "Arguments:",
    "  PATH                          Archive path. When it is a directory, the",
    "                                archive is written there as",
    "                                `<project>[-<version>].zip`.",
    "  WORKFLOW                      Only print this workflow's flow.",
    "",
    "Options:",
    "  -a ALIAS --alias=ALIAS        Server alias, as configured in",
    "                                `~/.hadoopdslrc`. Session IDs are cached per",
    "                                server.",
    "  -c --create                   Create the project on the server if missing.",
    "  -d --detailed                 List the jobs of every flow instead of",
    "                                summarizing each flow in a single row.",
    "  -f FLOWS --flows=FLOWS        Comma separated flows whose jobs are listed.",
    "  -h --help                     Print this message.",
    "  -l --log                      Print the path of the log file.",
    "  -o OPTION --option=OPTION     Project property, either `key=value` or the",
    "                                path of a `.properties` file. Options override",
    "                                the properties defined by the project itself.",
    "  -p PROJECT --project=PROJECT  Project name, or path of the python module",
    "                                defining it. Starred commands need the module.",
    "                                Use `module:name` to pick one of several",
    "                                projects defined in the same module.",
    "  -r --replace                  Replace any file already at PATH.",
    "  -u URL --url=URL              Server URL, `[user@]host[:port]` optionally",
    "                                preceded by a scheme (`http://` by default).",
    "                                The user defaults to the current one.",
    "  -v --version                  Print the version.",
    "",
    "The module and alias used when omitted are set by the `default.project` and",
    "`default.alias` options of the `hadoopdsl` section of `~/.hadoopdslrc`. Flows",
    "summarized by `status` default to the `default.flows` option of its `status`",
    "section, and otherwise to all of the project's flows. Its `dr.elephant.url`",
    "option adds links to Dr. Elephant reports below detail tables.",
    "",
    "Exits with status 1 on error."
  ]

/-- The text shown when a command line is not valid. -/
def usageText : String := Text.join "\n" usageLines

/-- The help text. -/
def helpText : String :=
  Text.join "\n"
    (["Hadoop DSL command line interface.", ""] ++ usageLines ++ [""] ++ detailLines)

/-- The version. -/
def version : String := "0.1.0"

end Jobflow.Command
