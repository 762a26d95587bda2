/-!
# Help

The text that explains the arguments.
-/

namespace LangServer

/-- What is shown to those who ask for help. -/
def helpText : String :=
"Buglang language server

Speaks the Language Server Protocol over stdio by default.

EXAMPLES:
    buglang-lsp                     Serve over stdio
    buglang-lsp --tcp --port 9257   Serve over TCP

ENVIRONMENT VARIABLES:
    BUGLANG_CONFIG               Settings file to load
    BUGLANG_LOG                  Log level (trace, debug, info, warn, error)
    BUGLANG_DIAGNOSTICS_REPORT   \"first\" or \"all\"
    BUGLANG_HOVER_SPAN           \"first-occurrence\" or \"cursor\"
    RUST_LOG                     Full tracing filter, overrides BUGLANG_LOG

Usage: buglang-lsp [OPTIONS]

Options:
      --tcp              Use TCP mode instead of stdio
      --port <PORT>      Port for TCP mode [default: 9257]
      --host <HOST>      Bind address for TCP mode [default: 127.0.0.1]
      --config <CONFIG>  Settings file; skips the buglang.toml search [env: BUGLANG_CONFIG=]
  -v, --verbose          Enable verbose logging
  -h, --help             Print help
  -V, --version          Print version
"

end LangServer
