/-! What the command says about itself. -/

namespace IncludeGraph.CommandLine

def program : String := "sourceGraph.py"

def version : String := "1.0.0"

def usage : String :=
  "usage: sourceGraph.py [-h] [-I DIR#ALIAS] [--companion-suffix SUFFIX]\n"
    ++ "                      [--format \x7btext,json\x7d] [--graphviz FILE] [--export FILE]\n"
    ++ "                      [--no-color] [--verbose] [--version]\n"
    ++ "                      ROOT_FILE\n"

def help : String :=
  usage
    ++ "\nDiscover the headers and sources a C/C++ translation unit depends on.\n"
    ++ "\npositional arguments:\n"
    ++ "  ROOT_FILE             Translation unit to analyze (e.g., src/main.cpp)\n"
    ++ "\noptions:\n"
    ++ "  -h, --help            show this help message and exit\n"
    ++ "  -I DIR#ALIAS, --include DIR#ALIAS\n"
    ++ "                        Include directory to index, optionally followed by '#'\n"
    ++ "                        and an alias prefix (can be used multiple times)\n"
    ++ "  --companion-suffix SUFFIX\n"
    ++ "                        Suffix probed next to a header for its implementation\n"
    ++ "                        file (default: .cpp)\n"
    ++ "  --format \x7btext,json\x7d  Output format (default: text)\n"
    ++ "  --graphviz FILE       Write the include edges as a Graphviz digraph\n"
    ++ "  --export FILE         Export the graph via NetworkX (.graphml, .dot, .gexf,\n"
    ++ "                        .json)\n"
    ++ "  --no-color            Disable colored output\n"
    ++ "  --verbose, -v         Enable verbose debug logging\n"
    ++ "  --version             show program's version number and exit\n"
    ++ "\nVersion 1.0.0\n"
    ++ "\nExamples:\n"
    ++ "  sourceGraph.py src/main.cpp\n"
    ++ "  sourceGraph.py src/main.cpp -I include# -I third_party/fmt/include#fmt\n"
    ++ "  sourceGraph.py src/main.cpp --format json\n"

end IncludeGraph.CommandLine
