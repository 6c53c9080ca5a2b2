/-!
# Help and version of the command
-/

namespace FheSolidity

/-- What the command prints when it is asked for its version. -/
def versionText : String :=
  "solgen 0.1.0\n"

/-- What the command prints when it is asked for help. -/
def helpText : String :=
  "\n".intercalate [
    "Generate the FHE Solidity library, its test contracts, and ABI types",
    "",
    "Usage: solgen [OPTIONS]",
    "",
    "Options:",
    "  -m, --metadata <FILE>      Operation metadata produced by the extractor (JSON) " ++
      "[default: metadata/operations.json]",
    "      --library <FILE>       Library output path [default: FHE.sol]",
    "      --contracts-dir <DIR>  Test contract output directory " ++
      "[default: solidity/tests/contracts]",
    "      --abi <FILE>           ABI type module output path [default: solidity/tests/abis.ts]",
    "      --dry-run              Run the full pass and report what would be written",
    "      --list                 Print every expanded signature instead of generating",
    "      --format <FORMAT>      Output format of --list [default: text] " ++
      "[possible values: text, json]",
    "  -v...                      Verbosity level (-v for info, -vv for debug)",
    "  -h, --help                 Print help",
    "  -V, --version              Print version",
    "",
    "EXAMPLES:",
    "  solgen                                  # regenerate everything",
    "  solgen -m ops.json --library out/FHE.sol",
    "  solgen --dry-run -v                     # report without writing",
    "  solgen --list                           # one declaration per line",
    "  solgen --list --format json             # signatures as JSON",
    ""]

end FheSolidity
