import ProxyPy.Core.Listener.Tcp
import Mathlib.Data.List.Nodup

/-!
# The port file of `Proxy.setup` (`proxy/proxy.py`)

After `self.listeners.setup()`, `Proxy.setup` overrides `flags.port` with the
port `pool[0]` reports unless a Unix socket is configured, collects into a set
the ports reported by the `len(flags.ports)` listeners from `offset` on,
removes `flags.port` from that set and stores the rest in `flags.ports`; then
`_write_port_file` writes `flags.port` (without a Unix socket) and each of
`flags.ports`, one a line. A Python `set` is a list without repeats here;
`list(ports)` has no order Python promises, and none of the results below
depends on one beyond the first line.

* **no repeats** — whatever the pool, no port is written twice
  (`port_file_nodup`);
* **without a Unix socket** — with the pool laid out as presumed, the first
  line is the primary port, and the file lists the primary port and the ports
  of every extra listener but the last (`port_file_tcp`):
  `range(0, len(flags.ports))` starts at the primary listener and stops one
  short of the last extra one (`port_file_drops_last_extra_port`);
* **with a Unix socket** — the file lists the extra ports, less the configured
  `flags.port`, which no listener reports (`port_file_unix`).
-/

namespace ProxyPy.Proxy

open ProxyPy.Common ProxyPy.Core.Listener

/-- `cast('TcpSocketListener', self.listeners.pool[index])._port`: an
`IndexError` past the end of the pool, an `AttributeError` on the Unix-socket
listener. -/
def boundPortAt (pool : List BaseListener) (index : ℕ) : Except String ℕ :=
  match pool[index]? with
  | none => .error "list index out of range"
  | some (.unix _) => .error "'UnixSocketListener' object has no attribute '_port'"
  | some (.tcp listener) => .ok listener.boundPort

/-- The loop `for index in indices: ports.add(pool[index]._port)`. -/
def addPorts (pool : List BaseListener) (ports : List ℕ) : List ℕ → Except String (List ℕ)
  | [] => .ok ports
  | index :: indices => do
    let port ← boundPortAt pool index
    addPorts pool (ports.insert port) indices

/-- `if port in ports: ports.remove(port)` on a set. -/
def removePort (port : ℕ) (ports : List ℕ) : List ℕ :=
  if port ∈ ports then ports.erase port else ports

/-- The port bookkeeping of `Proxy.setup`, from `self.listeners.setup()` to
`self._write_port_file()`: the flags it leaves. -/
def setupPorts (flags : Flags) (pool : List BaseListener) : Except String Flags := do
  let flags ← if truthy flags.unixSocketPath then pure flags
    else do
      let port ← boundPortAt pool 0
      pure { flags with port := port }
  let offset := if truthy flags.unixSocketPath then 1 else 0
  let ports ← addPorts pool [] (List.range' offset flags.ports.length)
  pure { flags with ports := removePort flags.port ports }

/-- `_write_port_file`: the lines of the port file, one port each, or `none`
when no `port_file` is set. -/
def writePortFile (flags : Flags) : Option (List ℕ) :=
  if truthy flags.portFile then
    some ((if truthy flags.unixSocketPath then [] else [flags.port]) ++ flags.ports)
  else none

/-- The port file `Proxy.setup` leaves for the pool it finds. -/
def portFile (flags : Flags) (pool : List BaseListener) : Except String (Option (List ℕ)) :=
  (setupPorts flags pool).map writePortFile

theorem ok_bind {α β : Type} (a : α) (f : α → Except String β) :
    (Except.ok a >>= f) = f a := rfl

/-! ## The set operations -/

theorem addPorts_nodup {pool : List BaseListener} {ports result : List ℕ} {indices : List ℕ}
    (distinct : ports.Nodup) (added : addPorts pool ports indices = .ok result) :
    result.Nodup := by
  induction indices generalizing ports with
  | nil => cases added; exact distinct
  | cons index indices ih =>
    simp only [addPorts] at added
    cases bound : boundPortAt pool index with
    | error message => rw [bound] at added; cases added
    | ok port => rw [bound, ok_bind] at added; exact ih distinct.insert added

/-- The loop over a window of listeners that all report a port adds exactly
their ports. -/
theorem addPorts_window (pool : List BaseListener) (ports : List ℕ) (start : ℕ)
    (window : List ℕ)
    (reported : ∀ j (inRange : j < window.length), boundPortAt pool (start + j) = .ok window[j]) :
    ∃ result, addPorts pool ports (List.range' start window.length) = .ok result ∧
      ∀ port, port ∈ result ↔ port ∈ ports ∨ port ∈ window := by
  induction window generalizing start ports with
  | nil => exact ⟨ports, rfl, by simp⟩
  | cons first rest ih =>
    obtain ⟨result, added, members⟩ := ih (ports.insert first) (start + 1)
      (fun j inRange => by
        simpa [Nat.add_assoc, Nat.add_comm 1 j] using reported (j + 1) (by simpa using inRange))
    refine ⟨result, ?_, fun port => ?_⟩
    · have head := reported 0 (by simp)
      simp only [Nat.add_zero, List.getElem_cons_zero] at head
      simpa only [List.length_cons, List.range'_succ, addPorts, head, ok_bind] using added
    · simp only [members, List.mem_insert_iff, List.mem_cons]
      tauto

theorem removePort_nodup {port : ℕ} {ports : List ℕ} (distinct : ports.Nodup) :
    (removePort port ports).Nodup := by
  unfold removePort
  split
  · exact distinct.erase port
  · exact distinct

theorem mem_removePort {port other : ℕ} {ports : List ℕ} (distinct : ports.Nodup) :
    other ∈ removePort port ports ↔ other ∈ ports ∧ other ≠ port := by
  unfold removePort
  split
  · rw [distinct.mem_erase_iff, and_comm]
  · constructor
    · exact fun mem => ⟨mem, fun same => by simp_all⟩
    · exact And.left

/-- The lines `_write_port_file` writes after `setup`: `port` first without a
Unix socket, then the set less `port`; no line twice. -/
theorem written_nodup (unix : Bool) {port : ℕ} {ports : List ℕ} (distinct : ports.Nodup) :
    ((if unix then [] else [port]) ++ removePort port ports).Nodup := by
  cases unix with
  | true => exact removePort_nodup distinct
  | false =>
    refine List.nodup_cons.mpr ⟨fun mem => ?_, removePort_nodup distinct⟩
    exact ((mem_removePort distinct).mp mem).2 rfl

/-! ## What `setup` can leave -/

/-- The flags `setup` leaves: the port it settled on, and the reported ports
of the loop's window less that port. -/
theorem setupPorts_ok {flags flags' : Flags} {pool : List BaseListener}
    (done : setupPorts flags pool = .ok flags') :
    ∃ ports, addPorts pool []
        (List.range' (if truthy flags.unixSocketPath then 1 else 0) flags.ports.length) = .ok ports ∧
      flags' = { flags with port := flags'.port, ports := removePort flags'.port ports } ∧
      (truthy flags.unixSocketPath = true → flags'.port = flags.port) ∧
      (truthy flags.unixSocketPath = false → boundPortAt pool 0 = .ok flags'.port) := by
  unfold setupPorts at done
  cases unix : truthy flags.unixSocketPath with
  | true =>
    simp only [unix, ite_true, pure, Except.pure, ok_bind] at done ⊢
    cases added : addPorts pool [] (List.range' 1 flags.ports.length) with
    | error message => rw [added] at done; cases done
    | ok ports =>
      rw [added, ok_bind] at done
      cases done
      exact ⟨ports, rfl, rfl, fun _ => rfl, fun absurd => nomatch absurd⟩
  | false =>
    simp only [unix, Bool.false_eq_true, ite_false] at done ⊢
    cases primary : boundPortAt pool 0 with
    | error message => rw [primary] at done; cases done
    | ok port =>
      simp only [primary, ok_bind, pure, Except.pure, unix, Bool.false_eq_true, ite_false] at done
      cases added : addPorts pool [] (List.range' 0 flags.ports.length) with
      | error message => rw [added] at done; cases done
      | ok ports =>
        rw [added, ok_bind] at done
        cases done
        exact ⟨ports, rfl, rfl, False.elim, fun _ => rfl⟩

/-- Without a Unix socket, `setup` settles on the port of `pool[0]` and keeps
the loop's set less that port. -/
theorem setupPorts_tcp {flags : Flags} {pool : List BaseListener} {port : ℕ} {ports : List ℕ}
    (noUnix : truthy flags.unixSocketPath = false) (settled : boundPortAt pool 0 = .ok port)
    (added : addPorts pool [] (List.range' 0 flags.ports.length) = .ok ports) :
    setupPorts flags pool = .ok { flags with port := port, ports := removePort port ports } := by
  simp only [setupPorts, noUnix, Bool.false_eq_true, ite_false, settled, pure, Except.pure,
    ok_bind, added]

/-- With a Unix socket, `setup` keeps `flags.port` and the loop's set less it. -/
theorem setupPorts_unix {flags : Flags} {pool : List BaseListener} {ports : List ℕ}
    (unix : truthy flags.unixSocketPath = true)
    (added : addPorts pool [] (List.range' 1 flags.ports.length) = .ok ports) :
    setupPorts flags pool = .ok { flags with ports := removePort flags.port ports } := by
  simp only [setupPorts, unix, ite_true, pure, Except.pure, ok_bind, added]

/-- **No repeats.** Whatever the pool, the port file `setup` writes names no
port twice. -/
theorem port_file_nodup {flags : Flags} {pool : List BaseListener} {lines : List ℕ}
    (written : portFile flags pool = .ok (some lines)) : lines.Nodup := by
  cases done : setupPorts flags pool with
  | error message => simp [portFile, done, Except.map] at written
  | ok flags' =>
    obtain ⟨ports, added, settled, -, -⟩ := setupPorts_ok done
    simp only [portFile, done, Except.map, writePortFile, Except.ok.injEq] at written
    split at written
    · cases written
      rw [settled]
      exact written_nodup _ (addPorts_nodup List.nodup_nil added)
    · cases written

theorem port_file_nodup_one_extra :
    portFile { (default : Flags) with port := 8899, ports := [8900], portFile := some "proxy.port" }
        [.tcp ⟨8899, 8899⟩, .tcp ⟨8900, 8900⟩] = .ok (some [8899]) ∧ [8899].Nodup :=
  have written : portFile
      { (default : Flags) with port := 8899, ports := [8900], portFile := some "proxy.port" }
      [.tcp ⟨8899, 8899⟩, .tcp ⟨8900, 8900⟩] = .ok (some [8899]) := rfl
  ⟨written, port_file_nodup written⟩

/-! ## The pool laid out as presumed -/

section Presumed

variable {flags : Flags} {primary : ℕ} {extra : List ℕ}

theorem boundPortAt_presumedPool_zero (noUnix : truthy flags.unixSocketPath = false) :
    boundPortAt (presumedPool flags primary extra) 0 = .ok primary := by
  simp [boundPortAt, presumedPool, noUnix]

theorem boundPortAt_presumedPool_succ (reported : extra.length = flags.ports.length) {index : ℕ}
    (inRange : index < extra.length) :
    boundPortAt (presumedPool flags primary extra) (index + 1) = .ok extra[index] := by
  obtain ⟨port, entry⟩ := presumedPool_get_succ flags primary reported inRange
  simp [boundPortAt, entry]

/-- Past the primary port, what the loop reads of `primary :: extra` without
its last element is `extra` without its last. -/
theorem mem_dropLast_cons {port : ℕ} :
    port = primary ∨ port ∈ (primary :: extra).dropLast ↔ port = primary ∨ port ∈ extra.dropLast := by
  cases extra with
  | nil => simp
  | cons next rest => simp

/-- **Without a Unix socket.** With the pool laid out as presumed, the port
file starts with the primary port, names no port twice, and lists exactly the
primary port and the ports of the extra listeners but the last. -/
theorem port_file_tcp (noUnix : truthy flags.unixSocketPath = false)
    (written : truthy flags.portFile = true) (reported : extra.length = flags.ports.length) :
    ∃ lines, portFile flags (presumedPool flags primary extra) = .ok (some lines) ∧
      lines.head? = some primary ∧ lines.Nodup ∧
      ∀ port, port ∈ lines ↔ port = primary ∨ port ∈ extra.dropLast := by
  have windowLength : (primary :: extra).dropLast.length = flags.ports.length := by
    simp [reported]
  obtain ⟨ports, added, members⟩ := addPorts_window (presumedPool flags primary extra) [] 0
    (primary :: extra).dropLast fun j inRange => by
      rw [List.getElem_dropLast, Nat.zero_add]
      cases j with
      | zero => exact boundPortAt_presumedPool_zero noUnix
      | succ index =>
        exact boundPortAt_presumedPool_succ reported (by simp at inRange; omega)
  rw [windowLength] at added
  have distinct := addPorts_nodup List.nodup_nil added
  have done := setupPorts_tcp noUnix (boundPortAt_presumedPool_zero noUnix) added
  refine ⟨primary :: removePort primary ports, ?_, rfl, ?_, fun port => ?_⟩
  · simp [portFile, done, Except.map, writePortFile, written, noUnix]
  · simpa using written_nodup false distinct
  · rw [List.mem_cons, mem_removePort distinct, members, ← mem_dropLast_cons]
    simp only [List.not_mem_nil, false_or]
    tauto

theorem port_file_tcp_two_extra :
    truthy (none : Option String) = false ∧ truthy (some "proxy.port") = true ∧
      [8900, 8901].length = [8900, 8901].length ∧
      ∃ lines, portFile
          { (default : Flags) with port := 8899, ports := [8900, 8901], portFile := some "proxy.port" }
          (presumedPool
            { (default : Flags) with port := 8899, ports := [8900, 8901], portFile := some "proxy.port" }
            8899 [8900, 8901]) = .ok (some lines) ∧
        lines.head? = some 8899 ∧ lines.Nodup ∧
        ∀ port, port ∈ lines ↔ port = 8899 ∨ port ∈ [8900, 8901].dropLast :=
  ⟨rfl, rfl, rfl, @port_file_tcp
    { (default : Flags) with port := 8899, ports := [8900, 8901], portFile := some "proxy.port" }
    8899 [8900, 8901] rfl rfl rfl⟩

/-- Without a Unix socket and with one extra port, `range(0, 1)` reads only the
primary listener: the port file lists `8899` and not `8900`. -/
theorem port_file_drops_last_extra_port :
    portFile { (default : Flags) with port := 8899, ports := [8900], portFile := some "proxy.port" }
        (presumedPool
          { (default : Flags) with port := 8899, ports := [8900], portFile := some "proxy.port" }
          8899 [8900]) = .ok (some [8899]) := by
  rfl

/-- **With a Unix socket.** With the pool laid out as presumed, the port file
names no port twice and lists exactly the extra ports but the configured
`flags.port`, which no listener reports. -/
theorem port_file_unix (unix : truthy flags.unixSocketPath = true)
    (written : truthy flags.portFile = true) (reported : extra.length = flags.ports.length) :
    ∃ lines, portFile flags (presumedPool flags primary extra) = .ok (some lines) ∧
      lines.Nodup ∧ ∀ port, port ∈ lines ↔ port ∈ extra ∧ port ≠ flags.port := by
  obtain ⟨ports, added, members⟩ := addPorts_window (presumedPool flags primary extra) [] 1
    extra fun j inRange => by
      rw [Nat.add_comm]
      exact boundPortAt_presumedPool_succ reported inRange
  rw [reported] at added
  have distinct := addPorts_nodup List.nodup_nil added
  have done := setupPorts_unix unix added
  refine ⟨removePort flags.port ports, ?_, removePort_nodup distinct, fun port => ?_⟩
  · simp [portFile, done, Except.map, writePortFile, written, unix]
  · rw [mem_removePort distinct, members]
    simp

theorem port_file_unix_default_port :
    truthy (some "proxy.sock") = true ∧ truthy (some "proxy.port") = true ∧
      [8899, 8900].length = [8899, 8900].length ∧
      ∃ lines, portFile
          { (default : Flags) with
            unixSocketPath := some "proxy.sock", port := 8899, ports := [8899, 8900],
            portFile := some "proxy.port" }
          (presumedPool
            { (default : Flags) with
              unixSocketPath := some "proxy.sock", port := 8899, ports := [8899, 8900],
              portFile := some "proxy.port" }
            8899 [8899, 8900]) = .ok (some lines) ∧
        lines.Nodup ∧ ∀ port, port ∈ lines ↔ port ∈ [8899, 8900] ∧ port ≠ 8899 :=
  ⟨rfl, rfl, rfl, @port_file_unix
    { (default : Flags) with
      unixSocketPath := some "proxy.sock", port := 8899, ports := [8899, 8900],
      portFile := some "proxy.port" }
    8899 [8899, 8900] rfl rfl rfl⟩

end Presumed

end ProxyPy.Proxy
