import Mathlib.Data.List.Basic

/-!
# The flags `Proxy` reads

`FlagParser.initialize` builds one `argparse.Namespace` that every component
reads; it is not in the source. `Flags` holds the fields that `Proxy.setup`,
`Proxy.shutdown` and their helpers read.
-/

namespace ProxyPy.Common

/-- The fields of `flags` the modelled code reads: `--unix-socket-path`,
`--port`, `--ports`, `--port-file`, `--pid-file`, `--enable-events`,
`--enable-metrics`, `--enable-ssh-tunnel`, `--threadless` and the integer
`--local-executor`. -/
structure Flags where
  unixSocketPath : Option String
  port : ℕ
  ports : List ℕ
  portFile : Option String
  pidFile : Option String
  enableEvents : Bool
  enableMetrics : Bool
  enableSshTunnel : Bool
  threadless : Bool
  localExecutor : ℕ
  deriving DecidableEq, Inhabited, Repr

/-- Python truthiness of an optional string flag: `None` and `''` are false. -/
def truthy : Option String → Bool
  | none => false
  | some path => !path.isEmpty

end ProxyPy.Common
