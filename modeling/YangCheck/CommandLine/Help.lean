import YangCheck.Batch.Basic
import YangCheck.Preferences

namespace YangCheck.CommandLine

def version : String := "0.1.0"

def usage (program : String) : List String :=
  [s!"Usage: {program} <file.yang|directory> [options]", s!"       {program} --help"]

/-- The help text; the last lines show the limits and the preferences in force. -/
def help [Limits] (program : String) (recommendedThreads : Nat) (preferences : Preferences) :
    List String :=
  [s!"YANG Validator v{version}",
    "Line-based YANG syntax validation and module tree building",
    "",
    "USAGE:",
    s!"    {program} <file.yang> [options]          # Process single file",
    s!"    {program} <directory> [options]          # Process directory",
    "",
    "OPTIONS:",
    "    --help              Show this help message",
    "    --validate-only     Run only the syntax validator",
    "    --build-only        Run only the tree builder",
    "    --json              Print the built tree as JSON",
    "    --sequential        Force sequential processing (no parallelism)",
    "    --threads N         Set maximum number of threads (default: auto)",
    "    --no-recursive      Don't search subdirectories",
    "    --max-files N       Limit maximum files to process",
    "    --fail-fast         Stop on first failed file",
    "    --quiet             Suppress per-file progress and reports",
    "",
    "EXIT STATUS:",
    "    0  every file passed",
    "    1  a validation error, missing module, or file access error",
    "",
    "EXAMPLES:",
    s!"    {program} example.yang                    # Validate and print tree",
    s!"    {program} example.yang --build-only --json",
    s!"    {program} models/ --threads 4             # 4 threads max",
    s!"    {program} models/ --sequential --fail-fast",
    "",
    "BATCH PROCESSING CAPABILITIES:",
    s!"    Max recommended threads: {recommendedThreads}",
    s!"    Thread ceiling: {Limits.maxWorkers}",
    s!"    Files per batch: {Limits.maxFilesPerBatch}",
    "    Supported extensions: " ++ ", ".intercalate Batch.extensions,
    "",
    "CONFIGURATION:",
    "    " ++ Limits.origin] ++
  preferences.logSummary.map ("    " ++ ·)

end YangCheck.CommandLine
