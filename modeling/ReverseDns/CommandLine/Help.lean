import ReverseDns.CommandLine.Invocation

/-!
# Help

The texts that explain the command line, at most 80 columns wide.

* `overview` -- all commands and the switches that each takes
* `Verb.help` -- one command
-/

namespace ReverseDns.CommandLine

def lines (list : List String) : String := "\n".intercalate list

def overview : String := lines [
  "Usage: azure-dns-ptr [options] [command]",
  "",
  "Manage an Azure DNS PTR record set declaratively",
  "",
  "Options:",
  "  --subscription <id>           Azure subscription ID",
  "  --tenant <id>                 Azure AD tenant ID",
  "  --credential-method <method>  Credential method (choices: \"default\", \"cli\",",
  "                                \"service-principal\", \"managed-identity\",",
  "                                \"browser\")",
  "  --diagnostics                 Log failed Azure DNS API calls",
  "  -v, --verbose                 Log every Azure DNS API call",
  "  -h, --help                    display help for command",
  "",
  "Commands:",
  "  apply [options] <config>      Create or update the PTR record set described",
  "                                by a JSON file",
  "  show [options]                Read the tracked PTR record set and refresh the",
  "                                state file",
  "  destroy [options]             Delete the tracked PTR record set",
  "  import [options] <id>         Start tracking an existing PTR record set by",
  "                                its Azure resource ID",
  "  help [command]                display help for command"]

namespace Verb

def purpose : Verb → String
  | .apply => "Create or update the PTR record set described by a JSON file"
  | .inspect => "Read the tracked PTR record set and refresh the state file"
  | .destroy => "Delete the tracked PTR record set"
  | .adopt => "Start tracking an existing PTR record set by its Azure resource ID"

def argumentHelp : Verb → List String
  | .apply => ["Arguments:", "  config              Desired state JSON file", ""]
  | .adopt => ["Arguments:", "  id                  Azure resource ID of the record set", ""]
  | .inspect | .destroy => []

def argumentShown (verb : Verb) : String :=
  match verb.argument? with
  | some name => " <" ++ name ++ ">"
  | none => ""

def help (verb : Verb) : String := lines ([
  s!"Usage: azure-dns-ptr {verb.name} [options]{verb.argumentShown}",
  "",
  verb.purpose,
  ""] ++ verb.argumentHelp ++ [
  "Options:",
  s!"  -s, --state <file>  State file (default: \"{standardStatePath}\")",
  "  -h, --help          display help for command"])

end Verb

end ReverseDns.CommandLine
