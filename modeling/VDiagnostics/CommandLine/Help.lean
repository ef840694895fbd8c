import VDiagnostics.CommandLine.Arguments

/-! The texts about the command line itself. -/

namespace VDiagnostics

namespace CommandLine

def usage : Text :=
  ("usage: vlint [-h] [--workspace WORKSPACE] [--once] [--compiler COMPILER] [-v] [file]\n").toList

def help : Text :=
  usage ++ ("\n" ++
    "vlint: V compiler diagnostics in your terminal\n" ++
    "\n" ++
    "positional arguments:\n" ++
    "  file                  V source file to lint\n" ++
    "\n" ++
    "options:\n" ++
    "  -h, --help            show this help message and exit\n" ++
    "  --workspace WORKSPACE\n" ++
    "                        Workspace root the compiler runs in (default: current directory)\n" ++
    "  --once                Lint once, print a report and exit\n" ++
    "  --compiler COMPILER   V compiler executable for this session\n" ++
    "  -v, --verbose         Debug logging\n").toList

def complaint (misuse : Misuse) : Text :=
  usage ++ "vlint: error: ".toList ++ misuse.message ++ ['\n']

end CommandLine

end VDiagnostics
