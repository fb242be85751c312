import Mathlib.Data.List.Basic
import Mathlib.Data.List.DropRight
import Mathlib.Data.Nat.Digits
import Mathlib.Tactic.IntervalCases

/-!
# `grout`: the registry address and the connection loop (`proxy/proxy.py`)

`grout()` first works out, in its nested `_parse`, which registry to ask for
its environment: the optional `name` argument, less its first label unless
`--wildcard` is given, or the default TLD; then `host[:port]` split at `':'`,
the port read by Python's `int()` and 443 when none is given. It then calls
`_env` until it returns an environment: the registry's 200 body, gunzipped
when its `content-encoding` is `gzip`, decoded and read by `json.loads`. Text
is a `List Char` (a Python `str` is a sequence of code points, `bytes` one of
values below 256); Python's `int()` and `str.split` are modelled as far as
`grout` uses them; the replies `client` gives, and what `gzip.decompress`,
`bytes.decode()` and `json.loads` return or raise, are arguments.

* **spec** — for every input, `_parse` returns the text of `grout_tld` before
  its first `':'` and `int()` of the text between its first and second `':'`
  (443 without a `':'`), raises only `int()`'s `ValueError`, never an
  `IndexError`, and ignores everything after a second `':'` (`parse_spec`);
* **round trip** — `label.host:port` and `label.host` parse back to `host` and
  `port` or 443, for any label without a dot, host without a colon and port
  (`parse_round_trip`), and with `--wildcard`, `host:port` and `host` for any
  host with a dot (`parse_wildcard_round_trip`);
* **connection loop** — whatever the libraries do, after any retried replies
  (a 200 body that loads as `null` among them), the first response with a
  status `int()` reads as 200 and a body that loads to a value ends the loop
  with that value, and an exception of `int()` on the status or of a library
  call on the body ends `grout` (`connect_outcome`).
-/

namespace ProxyPy.Proxy.Grout

/-! ## Python's `int()` and `str.split` -/

/-- `Py_ISSPACE`: the ASCII whitespace `int()` skips around a literal. -/
def isAsciiSpace (c : Char) : Bool := c == ' ' || (9 ≤ c.toNat && c.toNat ≤ 13)

/-- `Py_UNICODE_ISSPACE` on a character from `0x7F` up. -/
def isUnicodeSpace (c : Char) : Bool :=
  let n := c.toNat
  n == 0x85 || n == 0xA0 || n == 0x1680 || (0x2000 ≤ n && n ≤ 0x200A) || n == 0x2028 ||
    n == 0x2029 || n == 0x202F || n == 0x205F || n == 0x3000

/-- The code points of the Unicode decimal digits zero from `0x7F` up (Unicode
14.0), each the first of a run of ten digits. -/
def decimalZeros : List ℕ :=
  [0x660, 0x6F0, 0x7C0, 0x966, 0x9E6, 0xA66, 0xAE6, 0xB66, 0xBE6, 0xC66, 0xCE6, 0xD66,
    0xDE6, 0xE50, 0xED0, 0xF20, 0x1040, 0x1090, 0x17E0, 0x1810, 0x1946, 0x19D0, 0x1A80,
    0x1A90, 0x1B50, 0x1BB0, 0x1C40, 0x1C50, 0xA620, 0xA8D0, 0xA900, 0xA9D0, 0xA9F0, 0xAA50,
    0xABF0, 0xFF10, 0x104A0, 0x10D30, 0x11066, 0x110F0, 0x11136, 0x111D0, 0x112F0, 0x11450,
    0x114D0, 0x11650, 0x116C0, 0x11730, 0x118E0, 0x11950, 0x11C50, 0x11D50, 0x11DA0,
    0x16A60, 0x16AC0, 0x16B50, 0x1D7CE, 0x1D7D8, 0x1D7E2, 0x1D7EC, 0x1D7F6, 0x1E140,
    0x1E2F0, 0x1E950, 0x1FBF0]

/-- `Py_UNICODE_TODECIMAL` on a character from `0x7F` up: the value of a
Unicode decimal digit. -/
def toDecimal (c : Char) : Option ℕ :=
  (decimalZeros.find? fun first => first ≤ c.toNat && c.toNat < first + 10).map (c.toNat - ·)

/-- `_PyUnicode_TransformDecimalAndSpaceToASCII`: characters below `0x7F` are
kept, Unicode whitespace becomes `' '` and a Unicode decimal digit its ASCII
digit; the text ends with a `'?'` at the first other character. -/
def toAscii : List Char → List Char
  | [] => []
  | c :: rest =>
    if c.toNat < 127 then c :: toAscii rest
    else if isUnicodeSpace c then ' ' :: toAscii rest
    else match toDecimal c with
      | some decimal => Char.ofNat ('0'.toNat + decimal) :: toAscii rest
      | none => ['?']

/-- The value of a decimal digit. -/
def digitValue (c : Char) : ℕ := c.toNat - '0'.toNat

/-- The digits of an integer literal read into `acc`: decimal digits, with a
single underscore allowed between two of them; `none` on anything else. -/
def readDigits (acc : ℕ) : List Char → Option ℕ
  | [] => some acc
  | c :: rest =>
    if c.isDigit then readDigits (10 * acc + digitValue c) rest
    else if c = '_' then
      match rest with
      | d :: rest => if d.isDigit then readDigits (10 * acc + digitValue d) rest else none
      | [] => none
    else none

/-- The message of the `ValueError` `int()` raises. -/
def invalidLiteral : String := "invalid literal for int() with base 10"

/-- The sign of an integer literal and the text after it. -/
def sign : List Char → ℤ × List Char
  | '-' :: rest => (-1, rest)
  | '+' :: rest => (1, rest)
  | body => (1, body)

/-- `PyLong_FromString` in base 10 on text it must read to the end: ASCII
whitespace around an optional sign and digits that start with a digit. -/
def intOf (text : List Char) : Except String ℤ :=
  let signed := sign ((text.dropWhile isAsciiSpace).rdropWhile isAsciiSpace)
  match signed.2 with
  | d :: _ =>
    if d.isDigit then
      match readDigits 0 signed.2 with
      | some value => .ok (signed.1 * value)
      | none => .error invalidLiteral
    else .error invalidLiteral
  | [] => .error invalidLiteral

/-- `int(text)` on a `str` (`PyLong_FromUnicodeObject`). -/
def intOfStr (text : List Char) : Except String ℤ := intOf (toAscii text)

/-- `text.split(sep, maxsplit=1)`: the text before the first `sep` and all of
it after, or the text alone when `sep` does not occur. -/
def splitOnce (sep : Char) (text : List Char) : List (List Char) :=
  match text.splitOn sep with
  | first :: second :: rest => [first, [sep].intercalate (second :: rest)]
  | pieces => pieces

/-- `pieces[index]`, or the `IndexError` Python raises. -/
def pick (pieces : List (List Char)) (index : ℕ) : Except String (List Char) :=
  match pieces[index]? with
  | some piece => .ok piece
  | none => .error "list index out of range"

/-! ## `_parse` -/

/-- `default_grout_tld`: `JAXL_DEFAULT_GROUT_TLD` from the environment, or
`jaxl.io`. -/
def defaultGroutTld (environ : Option (List Char)) : List Char := environ.getD "jaxl.io".toList

/-- The `grout_tld` of `_parse`: the `name` argument when it has a dot, whole
with `--wildcard` and otherwise after its first label; the default without. -/
def groutTld (defaultTld : List Char) (name : Option (List Char)) (wildcard : Bool) :
    Except String (List Char) :=
  match name with
  | some name =>
    if '.' ∈ name then (if wildcard then .ok name else pick (splitOnce '.' name) 1)
    else .ok defaultTld
  | none => .ok defaultTld

/-- `tld_host, tld_port` from `grout_tld.split(':')`: the first piece, and
`int()` of the second when there is one, else 443. -/
def hostPort (tld : List Char) : Except String (List Char × ℤ) :=
  let parts := tld.splitOn ':'
  pick parts 0 >>= fun tldHost =>
    (if parts.length > 1 then pick parts 1 >>= intOfStr else .ok 443).map (tldHost, ·)

/-- `_parse` once `parse_known_args` has read the optional `name` and
`--wildcard`: the registry host and port, or the exception raised. -/
def parse (defaultTld : List Char) (name : Option (List Char)) (wildcard : Bool) :
    Except String (List Char × ℤ) :=
  groutTld defaultTld name wildcard >>= hostPort

/-! ## `_env` and the connection loop -/

/-- `int(data)` on `bytes` (`_PyLong_FromBytes`), each byte the character of
its value. -/
def intOfBytes (data : List Char) : Except String ℤ := intOf data

/-- What `client(...)` gives one call of `_env`: `socket.gaierror`, no
response, or a response with its status code, its `content-encoding` header
when it has one, and its body. -/
inductive Reply where
  | unresolved
  | unconnected
  | response (code contentEncoding body : Option (List Char))
  deriving DecidableEq, Repr

/-- The library calls `_env` makes on a body, each giving its result or the
text of the exception it raises: `gzip.decompress`, `bytes.decode()` and
`json.loads`, which gives `none` for the JSON `null`. -/
structure Library (Json : Type) where
  decompress : List Char → Except String (List Char)
  decode : List Char → Except String (List Char)
  loads : List Char → Except String (Option Json)

variable {Json : Type}

/-- `json.loads` of a 200 body, gunzipped first when its `content-encoding` is
`gzip`. -/
def Library.load (lib : Library Json) (contentEncoding : Option (List Char)) (body : List Char) :
    Except String (Option Json) :=
  (if contentEncoding = some "gzip".toList then lib.decompress body >>= lib.decode
    else lib.decode body) >>= lib.loads

/-- `_clear_line()`. -/
def clearLine : String := "\r" ++ String.mk (List.replicate 60 ' ')

/-- A message `_env` prints in red. -/
def alert (text : String) : String := "\r\x1b[91m" ++ text ++ "\x1b[0m"

/-- `_env`: the environment the registry sends, or `None`, with what it
printed; or the exception of `int()` on a status code or of a library call on
the body, which `_env` does not catch. -/
def env (lib : Library Json) : Reply → Except String (Option Json × List String)
  | .unresolved => .ok (none, [clearLine, alert "Unable to resolve"])
  | .unconnected => .ok (none, [clearLine, alert "Unable to connect"])
  | .response none _ _ => .ok (none, [clearLine, alert "Unable to fetch"])
  | .response (some code) contentEncoding body =>
    match intOfBytes code with
    | .error message => .error message
    | .ok status =>
      match status == 200, body with
      | true, some body => (lib.load contentEncoding body).map (·, [])
      | _, _ => .ok (none, [clearLine, alert ("Error code " ++ String.mk code)])

/-- What `grout` prints when the environment arrives. -/
def starting : String := "\rStarting ..." ++ String.mk (List.replicate 30 ' ') ++ "\r"

/-- What `grout` prints after its `attempts`-th retried reply. -/
def waiting (attempts : ℕ) : List String :=
  [clearLine, "\rWaiting for connection " ++ String.mk (List.replicate (attempts % 4) '.')]

/-- `grout`'s `while True` loop from `attempts` over the replies `client`
gives: what it prints, and the environment with the attempts it took, `none`
while the replies run out, or the exception that ends it. -/
def connect (lib : Library Json) (attempts : ℕ) :
    List Reply → List String × Except String (Option (Json × ℕ))
  | [] => ([], .ok none)
  | reply :: rest =>
    match env lib reply with
    | .error message => ([], .error message)
    | .ok (some found, printed) => (printed ++ [starting], .ok (some (found, attempts + 1)))
    | .ok (none, printed) =>
      let (more, outcome) := connect lib (attempts + 1) rest
      (printed ++ waiting (attempts + 1) ++ more, outcome)

/-- The replies after which `grout` asks again: all but a response whose
status code `int()` reads as 200, with a body that `_env` loads to a value
other than `null`, and a response on which `int()` or a library call raises. -/
def Reply.Retried (lib : Library Json) : Reply → Prop
  | .response (some code) contentEncoding body => ∃ status, intOfBytes code = .ok status ∧
      (status ≠ 200 ∨ ∀ found, body = some found → lib.load contentEncoding found = .ok none)
  | _ => True

/-! ## `split` and `int()` on the pieces `_parse` reads -/

/-- `text.split(sep)` is the text before the first `sep`, then, when `sep`
occurs, the split of what follows it. -/
theorem splitOn_eq (sep : Char) (text : List Char) :
    text.splitOn sep = text.takeWhile (· != sep) ::
      (if sep ∈ text then ((text.dropWhile (· != sep)).tail).splitOn sep else []) := by
  induction text with
  | nil => rfl
  | cons x xs ih =>
    simp only [List.splitOn] at ih ⊢
    by_cases same : x = sep
    · subst same
      simp
    · rw [List.splitOnP_cons, ih]
      simp [same, Ne.symm same]

/-- A text without `sep` comes before its first `sep` whole. -/
theorem takeWhile_of_not_mem {sep : Char} {text : List Char} (absent : sep ∉ text) :
    text.takeWhile (· != sep) = text :=
  List.takeWhile_eq_self_iff.mpr fun c mem => by
    simpa using fun same : c = sep => absent (same ▸ mem)

/-- `split(sep)` on a text without `sep` is the text alone. -/
theorem splitOn_of_not_mem {sep : Char} {text : List Char} (absent : sep ∉ text) :
    text.splitOn sep = [text] := by
  rw [splitOn_eq, if_neg absent, takeWhile_of_not_mem absent]

/-- The text before the first `sep`, and after it. -/
theorem splitOn_append_cons {sep : Char} {before : List Char} (absent : sep ∉ before)
    (after : List Char) : (before ++ sep :: after).splitOn sep = before :: after.splitOn sep :=
  List.splitOnP_first (· == sep) before
    (fun c mem same => absent (by rw [← beq_iff_eq.mp same]; exact mem)) sep (beq_self_eq_true sep) after

theorem splitOnce_append_cons {sep : Char} {before : List Char} (absent : sep ∉ before)
    (after : List Char) : splitOnce sep (before ++ sep :: after) = [before, after] := by
  have split := splitOn_append_cons absent after
  have pieces := List.splitOnP_ne_nil (· == sep) after
  rw [splitOnce, split]
  cases rest : after.splitOn sep with
  | nil => exact absurd rest pieces
  | cons second more =>
    show [before, [sep].intercalate (second :: more)] = [before, after]
    rw [← rest, List.intercalate_splitOn]

/-- `int()` raises nothing but its `ValueError`. -/
theorem intOf_error {text : List Char} {message : String}
    (raised : intOf text = .error message) : message = invalidLiteral := by
  unfold intOf at raised
  dsimp only at raised
  split at raised
  · split at raised
    · split at raised
      · cases raised
      · exact (Except.error.inj raised).symm
    · exact (Except.error.inj raised).symm
  · exact (Except.error.inj raised).symm

/-! ## `int()` reads back `str(port)` -/

/-- `toDigitsCore` with fuel to spare puts the digits of `n` before `acc`. -/
theorem toDigitsCore_eq (n : ℕ) : ∀ fuel acc, n < fuel →
    Nat.toDigitsCore 10 fuel n acc = Nat.toDigits 10 n ++ acc := by
  induction n using Nat.strong_induction_on with
  | _ n ih =>
    intro fuel acc enough
    obtain ⟨fuel, rfl⟩ : ∃ spare, fuel = spare + 1 := ⟨fuel - 1, by omega⟩
    unfold Nat.toDigits
    by_cases small : n / 10 = 0
    · simp [Nat.toDigitsCore, small]
    · simp only [Nat.toDigitsCore, small, ite_false]
      rw [ih (n / 10) (by omega) fuel _ (by omega), ih (n / 10) (by omega) n _ (by omega)]
      simp

/-- `str(n)` is `str(n // 10)` (when not `0`) followed by the last digit. -/
theorem toDigits_eq (n : ℕ) : Nat.toDigits 10 n =
    (if n / 10 = 0 then [] else Nat.toDigits 10 (n / 10)) ++ [Nat.digitChar (n % 10)] := by
  conv_lhs => unfold Nat.toDigits
  by_cases small : n / 10 = 0
  · simp [Nat.toDigitsCore, small]
  · simp only [Nat.toDigitsCore, small, ite_false]
    rw [toDigitsCore_eq _ _ _ (by omega)]

theorem digitChar_digit {k : ℕ} (small : k < 10) :
    (Nat.digitChar k).isDigit ∧ isAsciiSpace (Nat.digitChar k) = false ∧
      (Nat.digitChar k).toNat < 127 ∧
      digitValue (Nat.digitChar k) = k := by
  interval_cases k <;> decide

theorem toDigits_digitChar (n : ℕ) : ∀ c ∈ Nat.toDigits 10 n, ∃ k < 10, c = Nat.digitChar k := by
  induction n using Nat.strong_induction_on with
  | _ n ih =>
    intro c mem
    rw [toDigits_eq] at mem
    rcases List.mem_append.mp mem with front | last
    · split at front
      · cases front
      · exact ih (n / 10) (by omega) c front
    · exact ⟨n % 10, Nat.mod_lt _ (by omega), List.mem_singleton.mp last⟩

/-- The value the digits of `str(n)` spell is `n`. -/
theorem foldl_toDigits (n : ℕ) :
    (Nat.toDigits 10 n).foldl (fun acc c => 10 * acc + digitValue c) 0 = n := by
  induction n using Nat.strong_induction_on with
  | _ n ih =>
    have last := (digitChar_digit (Nat.mod_lt n (show 10 > 0 by omega))).2.2.2
    rw [toDigits_eq, List.foldl_append]
    split
    · simp [last]
      omega
    · simp [ih (n / 10) (by omega), last]
      omega

/-- Plain digits read as their decimal value. -/
theorem readDigits_of_isDigit {text : List Char} (digits : ∀ c ∈ text, c.isDigit) (acc : ℕ) :
    readDigits acc text = some (text.foldl (fun acc c => 10 * acc + digitValue c) acc) := by
  induction text generalizing acc with
  | nil => rfl
  | cons c rest ih =>
    unfold readDigits
    rw [if_pos (digits c (List.mem_cons_self c rest)), List.foldl_cons]
    exact ih (fun d mem => digits d (List.mem_cons_of_mem c mem)) _

/-- Text without whitespace at either end is what `int()` reads. -/
theorem strip_of_forall {space : Char → Bool} {text : List Char}
    (unspaced : ∀ c ∈ text, space c = false) : (text.dropWhile space).rdropWhile space = text := by
  have dropped : text.dropWhile space = text := by
    cases text with
    | nil => rfl
    | cons c rest => simp [unspaced c (List.mem_cons_self c rest)]
  rw [dropped, List.rdropWhile_eq_self_iff]
  exact fun nonempty => by simp [unspaced _ (List.getLast_mem nonempty)]

theorem sign_of_isDigit {d : Char} (digit : d.isDigit) (rest : List Char) :
    sign (d :: rest) = (1, d :: rest) := by
  unfold sign
  split <;> simp_all

/-- ASCII text is read by `int()` on a `str` as it is. -/
theorem toAscii_of_lt {text : List Char} (ascii : ∀ c ∈ text, c.toNat < 127) : toAscii text = text := by
  induction text with
  | nil => rfl
  | cons c rest ih =>
    rw [toAscii, if_pos (ascii c (List.mem_cons_self c rest)),
      ih fun d mem => ascii d (List.mem_cons_of_mem c mem)]

/-- **`int(str(n)) == n`.** -/
theorem intOfStr_toString (n : ℕ) : intOfStr (toString n).toList = .ok n := by
  show intOf (toAscii (Nat.toDigits 10 n)) = .ok n
  have digits : ∀ c ∈ Nat.toDigits 10 n, c.isDigit ∧ isAsciiSpace c = false ∧ c.toNat < 127 :=
    fun c mem => by
      obtain ⟨k, small, rfl⟩ := toDigits_digitChar n c mem
      exact ⟨(digitChar_digit small).1, (digitChar_digit small).2.1, (digitChar_digit small).2.2.1⟩
  have read := readDigits_of_isDigit (fun c mem => (digits c mem).1) 0
  rw [foldl_toDigits] at read
  rw [toAscii_of_lt fun c mem => (digits c mem).2.2]
  unfold intOf
  rw [strip_of_forall fun c mem => (digits c mem).2.1]
  cases spelled : Nat.toDigits 10 n with
  | nil =>
    rw [toDigits_eq] at spelled
    simp at spelled
  | cons d rest =>
    have digit := (digits d (spelled ▸ List.mem_cons_self d rest)).1
    rw [spelled] at read
    simp [sign_of_isDigit digit, digit, read]

/-! ## `_parse` -/

/-- `tld_host` is the text before the first `':'`; `tld_port` is `int()` of
the text between the first and the second `':'`, or 443 without a `':'`. -/
theorem hostPort_eq (tld : List Char) :
    hostPort tld = if ':' ∈ tld then
        (intOfStr ((tld.dropWhile (· != ':')).tail.takeWhile (· != ':'))).map
          (tld.takeWhile (· != ':'), ·)
      else .ok (tld, 443) := by
  simp only [hostPort]
  rw [splitOn_eq]
  by_cases colon : ':' ∈ tld
  · rw [if_pos colon, splitOn_eq ':' ((tld.dropWhile _).tail)]
    simp [pick, colon]
    rfl
  · simp [pick, colon, takeWhile_of_not_mem colon]
    rfl

/-- With a dot in `name`, `split('.', maxsplit=1)` has the second piece
`_parse` takes: `grout_tld` is always set. -/
theorem groutTld_ok (defaultTld : List Char) (name : Option (List Char)) (wildcard : Bool) :
    ∃ tld, groutTld defaultTld name wildcard = .ok tld := by
  cases name with
  | none => exact ⟨_, rfl⟩
  | some name =>
    by_cases dotted : '.' ∈ name
    · cases wildcard with
      | true => exact ⟨name, by simp [groutTld, dotted]⟩
      | false =>
        simp only [groutTld, dotted, ite_true, Bool.false_eq_true, ite_false, splitOnce]
        rw [splitOn_eq, if_pos dotted, splitOn_eq '.' _]
        exact ⟨_, rfl⟩
    · exact ⟨defaultTld, by simp [groutTld, dotted]⟩

/-- **What `_parse` returns.** For every default TLD, `name` and `--wildcard`,
`grout_tld` is set without an `IndexError`; the host is the text of
`grout_tld` before its first `':'`; the port is `int()` of the text between its
first and second `':'` (whatever follows a second `':'` is ignored), or 443
without a `':'`; and the only exception is `int()`'s `ValueError`. -/
theorem parse_spec (defaultTld : List Char) (name : Option (List Char)) (wildcard : Bool) :
    ∃ tld, groutTld defaultTld name wildcard = .ok tld ∧
      parse defaultTld name wildcard =
        (if ':' ∈ tld then
          (intOfStr ((tld.dropWhile (· != ':')).tail.takeWhile (· != ':'))).map
            (tld.takeWhile (· != ':'), ·)
        else .ok (tld, 443)) ∧
      ∀ message, parse defaultTld name wildcard = .error message → message = invalidLiteral := by
  obtain ⟨tld, settled⟩ := groutTld_ok defaultTld name wildcard
  have parsed : parse defaultTld name wildcard = hostPort tld := by
    rw [parse, settled]
    rfl
  refine ⟨tld, settled, parsed.trans (hostPort_eq tld), fun message raised => ?_⟩
  rw [parsed, hostPort_eq] at raised
  split at raised
  · cases read : intOfStr ((tld.dropWhile (· != ':')).tail.takeWhile (· != ':')) with
    | error message' =>
      rw [read] at raised
      cases raised
      exact intOf_error read
    | ok port => rw [read] at raised; cases raised
  · cases raised

theorem hostPort_append_cons {host portText : List Char} (noColon : ':' ∉ host)
    (plain : ':' ∉ portText) :
    hostPort (host ++ ':' :: portText) = (intOfStr portText).map (host, ·) := by
  simp [hostPort, splitOn_append_cons noColon, splitOn_of_not_mem plain, pick]
  rfl

theorem hostPort_of_not_mem {host : List Char} (noColon : ':' ∉ host) :
    hostPort host = .ok (host, 443) := by
  simp [hostPort, splitOn_of_not_mem noColon, pick]
  rfl

/-- `str(port)` has no `':'`. -/
theorem colon_not_mem_toString (port : ℕ) : ':' ∉ (toString port).toList := fun mem => by
  obtain ⟨k, small, spelled⟩ := toDigits_digitChar port ':' mem
  have digit := (digitChar_digit small).1
  rw [← spelled] at digit
  exact absurd digit (by decide)

/-- `host:port` with `str(port)` reads back as `host` and `port`. -/
theorem hostPort_toString {host : List Char} (noColon : ':' ∉ host) (port : ℕ) :
    hostPort (host ++ ':' :: (toString port).toList) = .ok (host, port) := by
  rw [hostPort_append_cons noColon (colon_not_mem_toString port), intOfStr_toString]
  rfl

/-- **Round trip.** The registry written `label.host:port`, or `label.host`, as
the `name` argument parses back to `host` and `port`, or 443, for every first
label without a dot, host without a colon and port. -/
theorem parse_round_trip (defaultTld : List Char) {label host : List Char} (port : ℕ)
    (oneLabel : '.' ∉ label) (noColon : ':' ∉ host) :
    parse defaultTld (some (label ++ '.' :: host ++ ':' :: (toString port).toList)) false =
        .ok (host, port) ∧
      parse defaultTld (some (label ++ '.' :: host)) false = .ok (host, 443) := by
  have afterLabel : ∀ rest, groutTld defaultTld (some (label ++ '.' :: rest)) false = .ok rest :=
    fun rest => by simp [groutTld, splitOnce_append_cons oneLabel, pick]
  constructor
  · rw [parse, List.append_assoc, List.cons_append, afterLabel]
    exact hostPort_toString noColon port
  · rw [parse, afterLabel]
    exact hostPort_of_not_mem noColon

theorem parse_round_trip_grout_example :
    '.' ∉ "grout".toList ∧ ':' ∉ "example.com".toList ∧
      parse (defaultGroutTld none)
          (some ("grout".toList ++ '.' :: "example.com".toList ++ ':' :: (toString 8080).toList))
          false = .ok ("example.com".toList, 8080) ∧
        parse (defaultGroutTld none) (some ("grout".toList ++ '.' :: "example.com".toList)) false =
          .ok ("example.com".toList, 443) :=
  ⟨by decide, by decide, parse_round_trip _ 8080 (by decide) (by decide)⟩

/-- **Round trip, `--wildcard`.** With `--wildcard` the whole `name` is the
registry: `host:port`, or `host`, parses back to `host` and `port`, or 443, for
every host with a dot and without a colon. -/
theorem parse_wildcard_round_trip (defaultTld : List Char) {host : List Char} (port : ℕ)
    (dotted : '.' ∈ host) (noColon : ':' ∉ host) :
    parse defaultTld (some (host ++ ':' :: (toString port).toList)) true = .ok (host, port) ∧
      parse defaultTld (some host) true = .ok (host, 443) := by
  have whole : ∀ name, '.' ∈ name → groutTld defaultTld (some name) true = .ok name :=
    fun name dot => by simp [groutTld, dot]
  constructor
  · rw [parse, whole _ (List.mem_append_left _ dotted)]
    exact hostPort_toString noColon port
  · rw [parse, whole _ dotted]
    exact hostPort_of_not_mem noColon

theorem parse_wildcard_round_trip_grout_example :
    '.' ∈ "grout.example.com".toList ∧ ':' ∉ "grout.example.com".toList ∧
      parse (defaultGroutTld none) (some ("grout.example.com".toList ++ ':' :: (toString 8080).toList))
          true = .ok ("grout.example.com".toList, 8080) ∧
        parse (defaultGroutTld none) (some "grout.example.com".toList) true =
          .ok ("grout.example.com".toList, 443) :=
  ⟨by decide, by decide, parse_wildcard_round_trip _ 8080 (by decide) (by decide)⟩

/-! ## The connection loop -/

variable {lib : Library Json}

/-- `_env` answers `None` to every retried reply. -/
theorem env_of_retried {reply : Reply} (retried : reply.Retried lib) :
    ∃ printed, env lib reply = .ok (none, printed) := by
  cases reply with
  | unresolved => exact ⟨_, rfl⟩
  | unconnected => exact ⟨_, rfl⟩
  | response code contentEncoding body =>
    cases code with
    | none => exact ⟨_, rfl⟩
    | some code =>
      obtain ⟨status, read, other | null⟩ := retried
      · simp [env, read, other]
      · cases body with
        | none => simp [env, read]
        | some body =>
          by_cases found : status = 200 <;> simp [env, read, found, null body rfl, Except.map]

/-- Over retried replies the loop only counts attempts. -/
theorem connect_append_retried {pre : List Reply} (retried : ∀ reply ∈ pre, reply.Retried lib)
    (attempts : ℕ) (rest : List Reply) :
    (connect lib attempts (pre ++ rest)).2 = (connect lib (attempts + pre.length) rest).2 := by
  induction pre generalizing attempts with
  | nil => rfl
  | cons reply pre ih =>
    obtain ⟨printed, answered⟩ := env_of_retried (retried reply (List.mem_cons_self reply pre))
    have tail := ih (fun r mem => retried r (List.mem_cons_of_mem reply mem)) (attempts + 1)
    simp only [List.cons_append, connect, answered, List.length_cons, List.append_eq]
    rw [tail, Nat.add_assoc, Nat.add_comm 1]

/-- **The connection loop.** After any replies that `grout` retries (no
response, no status code, a status code `int()` reads as other than 200, or
200 without a body or with a body that loads as `null`), a response whose
status code `int()` reads as 200 and whose body `_env` loads to a value ends
the loop with that value after one attempt per reply; a response whose status
code `int()` cannot read, or whose body `gzip.decompress`, `bytes.decode()` or
`json.loads` raises on, ends `grout` with that exception, which the loop does
not catch; and with no such reply the loop is still waiting. -/
theorem connect_outcome (lib : Library Json) (attempts : ℕ) {pre : List Reply}
    (retried : ∀ reply ∈ pre, reply.Retried lib) :
    (∀ code contentEncoding found value post, intOfBytes code = .ok 200 →
      lib.load contentEncoding found = .ok (some value) →
      (connect lib attempts (pre ++ .response (some code) contentEncoding (some found) :: post)).2 =
        .ok (some (value, attempts + pre.length + 1))) ∧
    (∀ code contentEncoding body post message, intOfBytes code = .error message →
      (connect lib attempts (pre ++ .response (some code) contentEncoding body :: post)).2 =
        .error message) ∧
    (∀ code contentEncoding found post message, intOfBytes code = .ok 200 →
      lib.load contentEncoding found = .error message →
      (connect lib attempts (pre ++ .response (some code) contentEncoding (some found) :: post)).2 =
        .error message) ∧
    (connect lib attempts pre).2 = .ok none := by
  refine ⟨fun code _ found value post read loaded => ?_, fun code _ body post message raised => ?_,
    fun code _ found post message read failed => ?_, ?_⟩
  · rw [connect_append_retried retried]
    simp [connect, env, read, loaded, Except.map]
  · rw [connect_append_retried retried]
    simp [connect, env, raised]
  · rw [connect_append_retried retried]
    simp [connect, env, read, failed, Except.map]
  · simpa using connect_append_retried retried attempts []

/-- A library for the examples: bodies never gzipped, decoded byte for byte,
and `json.loads` reading `null` as `None` and any other text as itself. -/
def plainLibrary : Library (List Char) where
  decompress := fun _ => .error "BadGzipFile"
  decode := .ok
  loads := fun text => if text = "null".toList then .ok none else .ok (some text)

theorem connect_outcome_after_null_body :
    (∀ reply ∈ [Reply.unconnected, .response (some "200".toList) none (some "null".toList)],
        reply.Retried plainLibrary) ∧
      (∀ code contentEncoding found value post, intOfBytes code = .ok 200 →
        plainLibrary.load contentEncoding found = .ok (some value) →
        (connect plainLibrary 0 ([Reply.unconnected, .response (some "200".toList) none (some "null".toList)] ++
          .response (some code) contentEncoding (some found) :: post)).2 =
          .ok (some (value, 0 + 2 + 1))) ∧
      (∀ code contentEncoding body post message, intOfBytes code = .error message →
        (connect plainLibrary 0 ([Reply.unconnected, .response (some "200".toList) none (some "null".toList)] ++
          .response (some code) contentEncoding body :: post)).2 = .error message) ∧
      (∀ code contentEncoding found post message, intOfBytes code = .ok 200 →
        plainLibrary.load contentEncoding found = .error message →
        (connect plainLibrary 0 ([Reply.unconnected, .response (some "200".toList) none (some "null".toList)] ++
          .response (some code) contentEncoding (some found) :: post)).2 = .error message) ∧
      (connect plainLibrary 0 [Reply.unconnected, .response (some "200".toList) none (some "null".toList)]).2 =
        .ok none :=
  have retried : ∀ reply ∈ [Reply.unconnected, .response (some "200".toList) none (some "null".toList)],
      reply.Retried plainLibrary := by
    simp only [List.mem_cons, List.mem_singleton, List.not_mem_nil, or_false, forall_eq_or_imp,
      forall_eq]
    refine ⟨trivial, 200, rfl, .inr fun found same => ?_⟩
    cases same
    rfl
  ⟨retried, connect_outcome plainLibrary 0 retried⟩

end ProxyPy.Proxy.Grout
