import SchemaMocks.CommandLine.Basic

set_option autoImplicit false
set_option relaxedAutoImplicit false

/-!
The texts that explain the program and its commands.
-/

namespace SchemaMocks

/-- Pairs in two columns, a pair to a line. -/
def columns (rows : List (String × String)) : String :=
  let width := rows.foldl (fun w row => max w row.1.length) 0
  String.join (rows.map fun (left, right) =>
    "  " ++ left ++ String.ofList (List.replicate (width - left.length) ' ') ++ "  " ++ right ++ "\n")

def versionText : String :=
  "zodmock 0.1.0\n"

def helpText : String :=
  "Zod schemas and mock factories from Prisma DMMF\n\nUsage: zodmock <COMMAND>\n\nCommands:\n"
    ++ columns (Verb.all.map (fun v => (v.name, v.about))
      ++ [("help", "Print this message or the help of the given subcommand(s)")])
    ++ "\nOptions:\n" ++ columns [("-h, --help", "Print help"), ("-V, --version", "Print version")]

def Verb.helpText (verb : Verb) : String :=
  let flags := if verb.options.length > verb.required.length then " [OPTIONS]" else ""
  let needed := String.join (verb.required.map fun o => " " ++ o.usage)
  let fields := if verb.takesFields then " <FIELDS>..." else ""
  verb.about ++ "\n\nUsage: zodmock " ++ verb.name ++ flags ++ needed ++ fields ++ "\n"
    ++ (if verb.takesFields then "\nArguments:\n  <FIELDS>...\n" else "")
    ++ "\nOptions:\n"
    ++ columns (verb.options.map (fun o => ("    " ++ o.usage, o.about))
      ++ [("-h, --help", "Print help")])

end SchemaMocks
