/-!
# Standing texts

The greeting of the console and its help text, line by line.
-/

namespace PreimageSearch.Guide

def banner : String :=
  "\n".intercalate
    ["",
    "         . | .",
    "     .    .|  /  .",
    "   .       | /     .",
    "  .        |/        .",
    "  ---------+---------  Welcome to QuICC. Use this app to analyze quantum",
    "   .     ./|       .   preimage attacks on certain crypto functions.",
    "     .   /.|     .",
    "        /. | .",
    "       /   |",
    ""]

def help : String :=
  "\n".intercalate
    ["",
    "QuICC implements popular hash functions as quantum oracles. Given a",
    "specific output to an oracle, a sufficiently advanced quantum computer",
    "could search for a matching input faster than a classical one. This app",
    "estimates the quantum computing resources required to run such a",
    "program. Operations that are small enough can also be fully simulated.",
    "",
    "Main menu options",
    "-----------------",
    " analyze:",
    "     Run a search with the resource estimator. Reports metrics about the",
    "     program's resource requirements without conducting the search.",
    " simulate:",
    "     Run a search with the full simulator. Only small operations are",
    "     offered, since every input of the search space is held in memory.",
    " help:",
    "     Print this message.",
    " quit:",
    "     Quit the application.",
    "",
    "Search parameters",
    "-----------------",
    " Search method:",
    "     How many matching inputs are expected for the given output, i.e.",
    "     the number of search targets assumed by each search attempt.",
    "      - single: 1 search target expected",
    "      - multiple: User enters number of search targets expected",
    "      - arithmetic: Starts with 1 target, then adds 1 after each failed",
    "         search until the max number entered by the user is reached",
    "      - geometric: Starts with 1 target, then doubles after each failed",
    "         search for the number of attempts entered by the user",
    " Search space size:",
    "     How many bits in the input to search over. Computational complexity",
    "     increases exponentially with this parameter.",
    " Known output to match:",
    "     Hex value of the digest to search a matching input for. Must fit in",
    "     the output width of the selected operation.",
    ""]

end PreimageSearch.Guide
