/-
  The help texts of the command line, line by line.
-/
namespace RegistryTables.CommandLine

def helpHead : List String :=
  ["Regen registry table generator",
   "",
   "Usage: rg_codegen [OPTIONS]",
   "",
   "Options:"]

/-- The help text that gives every option one line. -/
def shortHelp : List String := helpHead ++
  ["  -d, --data-dir <DIR>                 Directory holding the JSON data sources [default: data]",
   "  -i, --item-strategy <ITEM_STRATEGY>  How the item list is assembled from the legacy item" ++
     " tables [default: direct] [possible values: cross-referenced, direct]",
   "  -v, --verbose                        Verbose logging",
   "  -h, --help                           Print help (see more with '--help')"]

/-- The help text that gives every option a paragraph. -/
def longHelp : List String := helpHead ++
  ["  -d, --data-dir <DIR>",
   "          Directory holding the JSON data sources",
   "          ",
   "          [default: data]",
   "",
   "  -i, --item-strategy <ITEM_STRATEGY>",
   "          How the item list is assembled from the legacy item tables",
   "",
   "          Possible values:",
   "          - cross-referenced: Internal item ids confirmed by the external item table, plus" ++
     " string-identified external-only items",
   "          - direct:           The external legacy item table as-is",
   "          ",
   "          [default: direct]",
   "",
   "  -v, --verbose",
   "          Verbose logging",
   "",
   "  -h, --help",
   "          Print help (see a summary with '-h')"]

end RegistryTables.CommandLine
