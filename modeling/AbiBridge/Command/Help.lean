import AbiBridge.Command.Basic

/-!
# Help

The explanations that the program gives of itself.
-/

namespace AbiBridge

namespace HelpTopic

def summary : HelpTopic → String
  | program =>
    "vbind binding generator - Rust bindings and C++ layout shim from a JSON API descriptor"
  | generate => "Generate the bindings module and the shim"
  | genConfig => "Generate example configuration file"
  | check => "Run every stage without writing outputs"
  | resolve => "Resolve one C type string and print both renderings"

def callForm : HelpTopic → String
  | program => "vbind-gen [OPTIONS] <COMMAND>"
  | generate => "vbind-gen generate [OPTIONS]"
  | genConfig => "vbind-gen gen-config [OPTIONS]"
  | check => "vbind-gen check [OPTIONS]"
  | resolve => "vbind-gen resolve [OPTIONS] <TY>"

abbrev Row := String × String

def parts : HelpTopic → List (String × List Row)
  | program =>
    [("Commands:",
      [("generate", summary generate), ("gen-config", summary genConfig),
       ("check", summary check), ("resolve", summary resolve),
       ("help", "Print this message or the help of the given subcommand(s)")])]
  | resolve => [("Arguments:", [("<TY>", "Raw C type, e.g. \"const char *\"")])]
  | _ => []

def logRow : Row :=
  ("    --log-level <LOG_LEVEL>",
   "Log level (trace, debug, info, warn, error) [default: info]")

def helpRow : Row := ("-h, --help", "Print help")

def configRow : Row :=
  ("-c, --config <CONFIG>", "Configuration file path [default: vbind.toml]")

def strictRow : Row :=
  ("    --strict", "Exit with an error when any entity was skipped")

def options : HelpTopic → List Row
  | program => [logRow, helpRow, ("-V, --version", "Print version")]
  | generate | check => [configRow, logRow, strictRow, helpRow]
  | genConfig =>
    [("-o, --output <OUTPUT>", "Output file path [default: vbind.toml]"), logRow, helpRow]
  | resolve =>
    [logRow, ("    --signature", "Resolve in parameter position"),
     ("-c, --config <CONFIG>", "Apply the type overrides of this configuration"), helpRow]

/-- Rows with their right columns one below the other. -/
def aligned (rows : List Row) : List String :=
  let width := rows.foldl (fun width row => max width row.1.length) 0
  rows.map fun (left, right) =>
    "  " ++ left ++ String.ofList (List.replicate (width - left.length) ' ') ++ "  " ++ right

def lines (topic : HelpTopic) : List String :=
  [topic.summary, "", "Usage: " ++ topic.callForm, ""]
    ++ topic.parts.flatMap (fun (title, rows) => title :: aligned rows ++ [""])
    ++ "Options:" :: aligned topic.options

end HelpTopic

end AbiBridge
