import ResourceScaffold.CommandLine.Options
import ResourceScaffold.Text.Line

/-!
Contract: the texts that explain the command line.

Owns:
- brief and full help, and the version.

Does not own: when they are printed.
-/

namespace ResourceScaffold.CommandLine

def versionText : String := "layergen 0.1.0\n"

def briefHelpText : String :=
  Text.ofLines [
    "Generate route, controller, service, repository and test files for a resource",
    "",
    "Usage: layergen [OPTIONS]",
    "",
    "Options:",
    "  -n, --name [<WORD>]              Resource name in camelCase (e.g. `order`, `invoiceLine`)",
    "      --root <ROOT>                Project root containing `src/routes/_index.ts` [default: .]",
    "  -c, --config <FILE>              Extra configuration file layered over `<root>/layergen.toml`",
    "      --on-conflict <ON_CONFLICT>  What to do when a generated file already exists [default: force] [possible values: fail, force, skip, backup, prompt]",
    "      --dry-run                    Show the changes without writing anything",
    "      --no-verify                  Do not run the generated test afterwards",
    "  -h, --help                       Print help (see more with '--help')",
    "  -V, --version                    Print version"]

def fullHelpText : String :=
  Text.ofLines [
    "Generate route, controller, service, repository and test files for a resource",
    "",
    "Usage: layergen [OPTIONS]",
    "",
    "Options:",
    "  -n, --name [<WORD>]",
    "          Resource name in camelCase (e.g. `order`, `invoiceLine`)",
    "          ",
    "          Without a value, or without the flag, the configured default is used.",
    "",
    "      --root <ROOT>",
    "          Project root containing `src/routes/_index.ts`",
    "          ",
    "          [default: .]",
    "",
    "  -c, --config <FILE>",
    "          Extra configuration file layered over `<root>/layergen.toml`",
    "",
    "      --on-conflict <ON_CONFLICT>",
    "          What to do when a generated file already exists",
    "",
    "          Possible values:",
    "          - fail:   Abort before writing anything",
    "          - force:  Overwrite existing files",
    "          - skip:   Keep existing files",
    "          - backup: Rename existing files to `<file>.<timestamp>.bak`",
    "          - prompt: Ask before overwriting",
    "          ",
    "          [default: force]",
    "",
    "      --dry-run",
    "          Show the changes without writing anything",
    "",
    "      --no-verify",
    "          Do not run the generated test afterwards",
    "",
    "  -h, --help",
    "          Print help (see a summary with '-h')",
    "",
    "  -V, --version",
    "          Print version"]

def answerText? : Interruption → Option String
  | .briefHelp => some briefHelpText
  | .fullHelp => some fullHelpText
  | .version => some versionText
  | .misuse _ => none

end ResourceScaffold.CommandLine
