/-!
# Usage

The texts that explain the program's command line.
-/

namespace CycleSim.Usage

/-- Lines of text, each with its line end. -/
def paragraphs (lines : List String) : String :=
  String.join (lines.map (· ++ "\n"))

/-- Name and version of the program. -/
def version : String :=
  paragraphs ["rtl-harness 0.1.0"]

/-- The help text. -/
def help : String :=
  paragraphs
    ["Cycle-driven RTL simulation harness",
     "",
     "Usage: rtl-harness [OPTIONS] [MODEL_ARGS]...",
     "",
     "Arguments:",
     "  [MODEL_ARGS]...  Arguments forwarded to the device model, plus-arguments included",
     "",
     "Options:",
     "  -c, --config <CONFIG>    TOML configuration file. Built-in defaults apply when omitted",
     "  -m, --model <MODEL>      Device model to run, overriding `model.name`",
     "      --log-dir <LOG_DIR>  Directory for coverage and other run artifacts",
     "  -q, --quiet              Suppress the statistics summary",
     "  -h, --help               Print help",
     "  -V, --version            Print version"]

/-- What is said about a faulty command line. -/
def misuse : String :=
  paragraphs
    ["error: the command line is faulty",
     "",
     "Usage: rtl-harness [OPTIONS] [MODEL_ARGS]...",
     "",
     "For more information, try '--help'."]

end CycleSim.Usage
