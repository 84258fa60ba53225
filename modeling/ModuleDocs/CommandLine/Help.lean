import ModuleDocs.Text.Basic

/-! # The help text -/

namespace ModuleDocs.CommandLine

/-- What is printed when help is asked for. -/
def help : Text := Text.join ['\n']
  [ "usage: readmegen [-h] [--all] [--base-dir BASE_DIR]",
    "                 [--describer \x7bopenai,heuristic\x7d] [--dry-run] [--verbose]",
    "                 [directories ...]",
    "",
    "Generate README files for Terraform/OpenTofu modules.",
    "",
    "positional arguments:",
    "  directories           Module directories to process.",
    "",
    "options:",
    "  -h, --help            show this help message and exit",
    "  --all                 Process every module below --base-dir.",
    "  --base-dir BASE_DIR   Base directory for --all (default: .).",
    "  --describer \x7bopenai,heuristic\x7d",
    "                        Override the describer strategy.",
    "  --dry-run             Do not write any file.",
    "  --verbose             Enable debug logging.",
    "" ]

end ModuleDocs.CommandLine
