import ProxyPy.Common.Flag

/-!
# Listeners (`proxy/core/listener/tcp.py`)

A listener as `Proxy.setup` sees it once `ListenerPool.setup()` has called
`listen` on it. `TcpSocketListener.listen` binds `(hostname, port)` and stores
the port the socket reports, `sock.getsockname()[1]`, in `_port`: the
requested port, or the one the kernel picked for an ephemeral `port=0`.
`ListenerPool` itself is not in the source; the layout of its `pool` that
`Proxy.setup` presumes is `presumedPool`.
-/

namespace ProxyPy.Core.Listener

open ProxyPy.Common

/-- A `TcpSocketListener` after `listen`: the `port` it was asked to bind, and
`_port`, the port its socket reports. -/
structure TcpSocketListener where
  port : ℕ
  boundPort : ℕ
  deriving DecidableEq, Repr

/-- An entry of `ListenerPool.pool`: a `BaseListener`, Unix-socket or TCP. -/
inductive BaseListener where
  | unix (path : String)
  | tcp (listener : TcpSocketListener)
  deriving DecidableEq, Repr

/-- Modelled from the spec: `ListenerPool.setup` is not in the source. The pool
as `Proxy.setup` presumes it: the Unix-socket listener at index 0 when
`unix_socket_path` is set, otherwise the TCP listener for `port`, then one TCP
listener per entry of `ports`, in order. `primary` and `extra` are the ports
the TCP listeners' sockets report. -/
def presumedPool (flags : Flags) (primary : ℕ) (extra : List ℕ) : List BaseListener :=
  (if truthy flags.unixSocketPath then .unix (flags.unixSocketPath.getD "")
    else .tcp ⟨flags.port, primary⟩) ::
  (flags.ports.zip extra).map fun bound => .tcp ⟨bound.1, bound.2⟩

theorem presumedPool_length (flags : Flags) (primary : ℕ) {extra : List ℕ}
    (reported : extra.length = flags.ports.length) :
    (presumedPool flags primary extra).length = flags.ports.length + 1 := by
  simp [presumedPool, reported]

/-- Past index 0, the presumed pool holds the extra ports' listeners in order. -/
theorem presumedPool_get_succ (flags : Flags) (primary : ℕ) {extra : List ℕ}
    (reported : extra.length = flags.ports.length) {index : ℕ}
    (inRange : index < extra.length) :
    ∃ port, (presumedPool flags primary extra)[index + 1]? = some (.tcp ⟨port, extra[index]⟩) := by
  refine ⟨flags.ports[index], ?_⟩
  simp [presumedPool, List.getElem?_zip_eq_some, reported, inRange]

end ProxyPy.Core.Listener
