import Mathlib.Data.List.Infix
import PicoScripts.Base.Text

/-!
# The UDP echo server

`src/script/udp_echo_server.py`. `main` takes the port from `sys.argv[1]` with `int()`, or
5555, binds a datagram socket to it on every interface and says so. Its loop then takes the
next datagram from the socket with `recvfrom(4096)`, which keeps the first 4096 bytes of it,
prints what it received, sends those bytes back to the sender with `sendto`, and prints that
it did. Python raises `KeyboardInterrupt` between any two statements: the loop then prints
`Shutting down` and `finally` closes the socket. An `OSError` of `sendto` is not caught; it
closes the socket too and ends the program.

The server is a state machine (`Server`, `step`) over where the loop is, the datagrams
queued at the socket, those sent and the text printed, driven by `Event`s: a datagram
arriving, the next statement, an interrupt, a failing `sendto`. Two ghost fields, which the
program does not hold, record where the datagrams went that were never sent: the one the
loop held when it stopped, and those the socket discarded when it closed or that reached it
closed. Over every run from the start (`run_echoes`):

* what the server sent is, in order, a prefix of the datagrams that arrived, each cut to
  4096 bytes: nothing is sent twice, out of order, or to anyone but its sender;
* while the loop runs, the datagrams sent, the one in flight and the ones queued are all of
  those that arrived: none is lost;
* once it has stopped, the datagrams sent, the one lost and the ones discarded are all of
  those that arrived: at most one it took from the socket was never sent, the one held
  between `recvfrom` and `sendto`, and the socket discarded the others.

Without an interrupt, four statements per queued datagram echo them all and print two
lines for each (`run_next_drains`). The line printed for a datagram shows `repr(data)`,
which reads back as the bytes received (`readLiteral_bytesRepr`).
-/

namespace PicoScripts.Udp

/-! ### Addresses, datagrams and their text -/

/-- An `AF_INET` address as `recvfrom` returns it: the host's four octets in the order
`inet_ntoa` prints them, and the port. -/
structure Addr where
  a : UInt8
  b : UInt8
  c : UInt8
  d : UInt8
  port : UInt16
  deriving DecidableEq

/-- `str(addr)`: the tuple `('a.b.c.d', port)`. -/
def addrText (addr : Addr) : List Char :=
  "('".toList ++ Nat.toDigits 10 addr.a.toNat ++ ['.'] ++ Nat.toDigits 10 addr.b.toNat ++
    ['.'] ++ Nat.toDigits 10 addr.c.toNat ++ ['.'] ++ Nat.toDigits 10 addr.d.toNat ++
    "', ".toList ++ Nat.toDigits 10 addr.port.toNat ++ [')']

/-- A datagram: its bytes and the address it came from. -/
structure Datagram where
  data : List UInt8
  addr : Addr
  deriving DecidableEq

/-- The buffer size the loop gives `recvfrom` (`udp_echo_server.py:17`). -/
def bufsize : Nat := 4096

/-- What `recvfrom(4096)` returns for a datagram: its first 4096 bytes, the rest being
discarded, and its sender. -/
def Datagram.received (g : Datagram) : Datagram := ⟨g.data.take bufsize, g.addr⟩

/-- How `repr` (`PyBytes_Repr`) writes one byte between the quotes `quote`: the quote and
the backslash escaped, `\t`, `\n` and `\r`, the other bytes below 32 or from 127 as `\xhh`,
and printable ASCII as itself. -/
def reprByte (quote : Char) (c : UInt8) : List Char :=
  if c.toNat = quote.toNat ∨ c = 92 then ['\\', Char.ofNat c.toNat]
  else if c = 9 then ['\\', 't']
  else if c = 10 then ['\\', 'n']
  else if c = 13 then ['\\', 'r']
  else if c < 32 ∨ 127 ≤ c then
    ['\\', 'x', Nat.digitChar (c.toNat / 16), Nat.digitChar (c.toNat % 16)]
  else [Char.ofNat c.toNat]

/-- `repr(data)` of `bytes` (`PyBytes_Repr`), which the f-string of `udp_echo_server.py:18`
prints for `data`: in double quotes where the data holds a single quote and no double
quote, else in single quotes. -/
def bytesRepr (data : List UInt8) : List Char :=
  let quote := if 39 ∈ data ∧ 34 ∉ data then '"' else '\x27'
  'b' :: quote :: ((data.map (reprByte quote)).flatten ++ [quote])

/-- The line `udp_echo_server.py:18` prints for a datagram received. -/
def receivedLine (g : Datagram) : List Char :=
  "Received ".toList ++ Nat.toDigits 10 g.data.length ++ " bytes from ".toList ++
    addrText g.addr ++ ": ".toList ++ bytesRepr g.data

/-- The line `udp_echo_server.py:20` prints once a datagram went back to `addr`. -/
def echoedLine (addr : Addr) : List Char := "Echoed back to ".toList ++ addrText addr

/-- The text `udp_echo_server.py:22` prints. -/
def shutdownLine : List Char := "\nShutting down".toList

/-- `print(text, flush=True)` after the output `out`: the text and a newline. -/
def printLine (out text : List Char) : List Char := out ++ text ++ ['\n']

/-! ### Reading the printed bytes back -/

/-- The byte a one-letter escape of a bytes literal stands for, for those `repr` writes. -/
def escapeValue (e : Char) : Option UInt8 :=
  if e = '\\' then some 92 else if e = '\x27' then some 39 else if e = '"' then some 34
  else if e = 't' then some 9 else if e = 'n' then some 10 else if e = 'r' then some 13
  else none

/-- How Python reads the text of a bytes literal after its opening quote `quote`, up to the
closing quote that ends the text: the escapes `repr` writes, and printable ASCII standing
for itself. -/
def readBody (quote : Char) : List Char → Option (List UInt8)
  | [] => none
  | c :: rest =>
    if c = quote then if rest = [] then some [] else none
    else if c = '\\' then
      match rest with
      | e :: rest =>
        if e = 'x' then
          match rest with
          | h :: l :: rest =>
            if digitValue h < 16 ∧ digitValue l < 16 then
              ((digitValue h * 16 + digitValue l).toUInt8 :: ·) <$> readBody quote rest
            else none
          | _ => none
        else
          match escapeValue e with
          | some b => (b :: ·) <$> readBody quote rest
          | none => none
      | [] => none
    else if 32 ≤ c.toNat ∧ c.toNat < 127 then (c.toNat.toUInt8 :: ·) <$> readBody quote rest
    else none

/-- How Python reads a bytes literal `b'...'` or `b"..."`. -/
def readLiteral : List Char → Option (List UInt8)
  | 'b' :: quote :: body => if quote = '\x27' ∨ quote = '"' then readBody quote body else none
  | _ => none

private theorem readBody_close (q : Char) : readBody q [q] = some [] := by
  conv_lhs => unfold readBody
  simp

private theorem readBody_escape {q : Char} (hq : q ≠ '\\') {e : Char} (he : e ≠ 'x')
    (rest : List Char) :
    readBody q ('\\' :: e :: rest) =
      (escapeValue e).bind fun b => (b :: ·) <$> readBody q rest := by
  conv_lhs => unfold readBody
  simp only [if_neg hq.symm, if_neg he, if_true]
  cases escapeValue e <;> rfl

private theorem readBody_hex {q : Char} (hq : q ≠ '\\') (h l : Char) (rest : List Char) :
    readBody q ('\\' :: 'x' :: h :: l :: rest) =
      if digitValue h < 16 ∧ digitValue l < 16 then
        ((digitValue h * 16 + digitValue l).toUInt8 :: ·) <$> readBody q rest
      else none := by
  conv_lhs => unfold readBody
  simp only [if_neg hq.symm, if_true]

private theorem readBody_plain {q c : Char} (hq : c ≠ q) (hb : c ≠ '\\') (rest : List Char) :
    readBody q (c :: rest) =
      if 32 ≤ c.toNat ∧ c.toNat < 127 then (c.toNat.toUInt8 :: ·) <$> readBody q rest
      else none := by
  conv_lhs => unfold readBody
  simp only [if_neg hq, if_neg hb]

private theorem uint8_ext {x y : UInt8} (h : x.toNat = y.toNat) : x = y :=
  UInt8.eq_of_toBitVec_eq (BitVec.eq_of_toNat_eq h)

private theorem toUInt8_toNat (c : UInt8) : c.toNat.toUInt8 = c :=
  uint8_ext (UInt8.toNat_ofNat_of_lt c.toBitVec.isLt)

private theorem toNat_charOfNat {n : Nat} (h : n < 256) : (Char.ofNat n).toNat = n := by
  rw [Char.ofNat, dif_pos (Or.inl (by omega))]
  rfl

private theorem readBody_reprByte {q : Char} (hq : q = '\x27' ∨ q = '"') (c : UInt8)
    (rest : List Char) : readBody q (reprByte q c ++ rest) = (c :: ·) <$> readBody q rest := by
  have hq92 : q ≠ '\\' := by rcases hq with rfl | rfl <;> decide
  have hc : c.toNat < 256 := c.toBitVec.isLt
  unfold reprByte
  split_ifs with hesc h9 h10 h13 hctl
  · -- the quote or the backslash, escaped
    have : c = 92 ∨ c = 39 ∨ c = 34 := by
      rcases hesc with h | h
      · rcases hq with rfl | rfl
        · exact .inr (.inl (uint8_ext h))
        · exact .inr (.inr (uint8_ext h))
      · exact .inl h
    rcases this with rfl | rfl | rfl <;> exact (readBody_escape hq92 (by decide) rest).trans rfl
  · subst h9; exact (readBody_escape hq92 (by decide) rest).trans rfl
  · subst h10; exact (readBody_escape hq92 (by decide) rest).trans rfl
  · subst h13; exact (readBody_escape hq92 (by decide) rest).trans rfl
  · -- a control byte or one from 127, as two hexadecimal digits
    have hd : c.toNat / 16 < 16 := by omega
    have hm : c.toNat % 16 < 16 := Nat.mod_lt _ (by decide)
    rw [List.cons_append, List.cons_append, List.cons_append, List.cons_append, List.nil_append,
      readBody_hex hq92, digitValue_digitChar hd, digitValue_digitChar hm, if_pos ⟨hd, hm⟩,
      Nat.div_add_mod' c.toNat 16, toUInt8_toNat]
  · -- printable ASCII, as itself
    have hlt : 32 ≤ c.toNat ∧ c.toNat < 127 := by
      have h32 : ¬ c.toNat < 32 := fun h => hctl (.inl (UInt8.lt_def.mpr (BitVec.lt_def.mpr h)))
      have h127 : ¬ 127 ≤ c.toNat := fun h =>
        hctl (.inr (UInt8.le_def.mpr (BitVec.le_def.mpr h)))
      omega
    have hne : Char.ofNat c.toNat ≠ q := fun h => hesc (.inl (by rw [← h, toNat_charOfNat hc]))
    have hnb : Char.ofNat c.toNat ≠ '\\' := fun h => hesc (.inr (uint8_ext (by
      rw [← toNat_charOfNat hc, h]; rfl)))
    rw [List.singleton_append, readBody_plain hne hnb, toNat_charOfNat hc, if_pos hlt,
      toUInt8_toNat]

private theorem readBody_reprBody {q : Char} (hq : q = '\x27' ∨ q = '"') (data : List UInt8) :
    readBody q ((data.map (reprByte q)).flatten ++ [q]) = some data := by
  induction data with
  | nil => exact readBody_close q
  | cons c data ih =>
    rw [List.map_cons, List.flatten_cons, List.append_assoc, readBody_reprByte hq, ih]
    rfl

/-- The bytes a received line shows read back as the bytes received: Python reads
`repr(data)` as `data`. -/
theorem readLiteral_bytesRepr (data : List UInt8) : readLiteral (bytesRepr data) = some data := by
  have hq : (if 39 ∈ data ∧ 34 ∉ data then '"' else '\x27') = '\x27' ∨
      (if 39 ∈ data ∧ 34 ∉ data then '"' else '\x27') = '"' := by
    split_ifs <;> simp
  simp only [bytesRepr, readLiteral, if_pos hq]
  exact readBody_reprBody hq data

/-! ### The server -/

/-- Where the loop of `udp_echo_server.py:16-20` is. -/
inductive Pc
  /-- In `sock.recvfrom(4096)`, waiting for a datagram. -/
  | recv
  /-- `recvfrom` returned the datagram; next, the print of line 18. -/
  | got (g : Datagram)
  /-- Next, `sock.sendto(data, addr)`. -/
  | send (g : Datagram)
  /-- The datagram went back to `addr`; next, the print of line 20. -/
  | sent (addr : Addr)
  /-- The loop has ended and `finally` has closed the socket. -/
  | closed
  deriving DecidableEq

/-- The server: where its loop is, the datagrams queued at its socket, those `sendto` sent,
oldest first, and what it printed; and as ghost state, the datagram the loop held when it
stopped and the datagrams the closed socket discarded. -/
structure Server where
  pc : Pc
  queue : List Datagram
  sent : List Datagram
  out : List Char
  lost : List Datagram
  dropped : List Datagram

/-- The datagram the loop holds between `recvfrom` and `sendto`, if any. -/
def inFlight : Pc → List Datagram
  | .got g => [g]
  | .send g => [g]
  | _ => []

/-- What can happen next. -/
inductive Event
  /-- A datagram reaches the socket. -/
  | arrive (g : Datagram)
  /-- The interpreter runs the next statement of the loop. -/
  | next
  /-- Ctrl-C: Python raises `KeyboardInterrupt` where the loop is. -/
  | interrupt
  /-- `sendto` raises `OSError`. -/
  | sendError

/-- One event (`udp_echo_server.py:15-24`). A closed socket discards the datagrams that reach
it, and a stopped program runs no statement. An interrupt ends the loop with the print of
line 22, an `OSError` of `sendto` without it; then `finally` closes the socket, which
discards the datagrams still queued. -/
def step (s : Server) : Event → Server
  | .arrive g =>
    if s.pc = .closed then { s with dropped := s.dropped ++ [g] }
    else { s with queue := s.queue ++ [g] }
  | .next =>
    match s.pc, s.queue with
    | .recv, g :: queue => { s with pc := .got g.received, queue := queue }
    | .recv, [] => s
    | .got g, _ => { s with pc := .send g, out := printLine s.out (receivedLine g) }
    | .send g, _ => { s with pc := .sent g.addr, sent := s.sent ++ [g] }
    | .sent addr, _ => { s with pc := .recv, out := printLine s.out (echoedLine addr) }
    | .closed, _ => s
  | .interrupt =>
    if s.pc = .closed then s
    else
      { s with
        pc := .closed, queue := [], out := printLine s.out shutdownLine, lost := inFlight s.pc,
        dropped := s.queue }
  | .sendError =>
    match s.pc with
    | .send g => { s with pc := .closed, queue := [], lost := [g], dropped := s.queue }
    | _ => s

/-- The server after the events, in order. -/
def run (s : Server) (events : List Event) : Server := events.foldl step s

/-- The port of `udp_echo_server.py:8`: `int(sys.argv[1])`, or 5555 without an argument;
`none` where `int()` raises `ValueError`. -/
def portArg : List (List Char) → Option Int
  | _ :: arg :: _ => pyInt 10 arg
  | _ => some 5555

/-- Why `main` stops before its loop: the exception it raises. -/
inductive StartError
  /-- `int(sys.argv[1])` raised `ValueError` on the argument. -/
  | valueError (arg : List Char)
  /-- `bind` raised `OverflowError` with this text: the port is out of range. -/
  | overflowError (text : List Char)
  /-- `bind` raised `OSError` with this text. -/
  | osError (text : List Char)

/-- `main` up to its loop (`udp_echo_server.py:8-13`), over how the system binds a port
(`some` the text of its `OSError` where it refuses): the server waits in `recvfrom` with
nothing queued or sent, having printed the port it listens on. -/
def start (argv : List (List Char)) (bindPort : Nat → Option (List Char)) :
    Except StartError Server :=
  match portArg argv with
  | none => .error (.valueError (argv.getD 1 []))
  | some port =>
    if 0 ≤ port ∧ port ≤ 65535 then
      match bindPort port.toNat with
      | some e => .error (.osError e)
      | none =>
        .ok ⟨.recv, [], [],
          printLine [] ("UDP echo server listening on port ".toList ++ Nat.toDigits 10 port.toNat),
          [], []⟩
    else .error (.overflowError "bind(): port must be 0-65535.".toList)

/-- The datagrams that arrive in a list of events, in order. -/
def arrivals (events : List Event) : List Datagram :=
  events.filterMap fun
    | .arrive g => some g
    | _ => none

/-- What holds of the server after the datagrams `arrived` have arrived. -/
structure Echoes (arrived : List Datagram) (s : Server) : Prop where
  /-- While the loop runs, the datagrams sent, the one in flight and the ones queued are
  those that arrived, cut to the buffer size, in order. -/
  running : s.pc ≠ .closed →
    s.sent ++ inFlight s.pc ++ s.queue.map Datagram.received = arrived.map Datagram.received
  /-- Once stopped, the datagrams sent, the one lost and the ones discarded, cut to the buffer
  size, are those that arrived, in order, and at most one was lost. -/
  stopped : s.pc = .closed →
    s.sent ++ s.lost ++ s.dropped.map Datagram.received = arrived.map Datagram.received ∧
      s.lost.length ≤ 1

theorem length_inFlight_le (pc : Pc) : (inFlight pc).length ≤ 1 := by
  cases pc <;> simp [inFlight]

theorem arrivals_cons (e : Event) (events : List Event) :
    arrivals (e :: events) = arrivals [e] ++ arrivals events := by
  cases e <;> rfl

/-- A stopped server only discards the datagrams that reach it. -/
theorem step_of_closed {s : Server} (h : s.pc = .closed) (e : Event) :
    step s e = { s with dropped := s.dropped ++ arrivals [e] } := by
  obtain ⟨pc, queue, sent, out, lost, dropped⟩ := s
  subst h
  cases e <;> simp [step, arrivals]

private theorem echoes_running {arrived : List Datagram} {s : Server} (hc : s.pc ≠ .closed)
    (h : s.sent ++ inFlight s.pc ++ s.queue.map Datagram.received =
      arrived.map Datagram.received) : Echoes arrived s :=
  ⟨fun _ => h, fun h' => absurd h' hc⟩

private theorem echoes_close {arrived : List Datagram} {s : Server} (hc : s.pc ≠ .closed)
    (h : Echoes arrived s) (out : List Char) :
    Echoes arrived ⟨.closed, [], s.sent, out, inFlight s.pc, s.queue⟩ :=
  ⟨fun h' => absurd rfl h', fun _ => ⟨h.running hc, length_inFlight_le _⟩⟩

/-- Every event keeps the account of the datagrams, counting the one that arrived. -/
theorem echoes_step {arrived : List Datagram} {s : Server} (h : Echoes arrived s) (e : Event) :
    Echoes (arrived ++ arrivals [e]) (step s e) := by
  by_cases hc : s.pc = .closed
  · rw [step_of_closed hc]
    refine ⟨fun h' => absurd hc h', fun _ => ?_⟩
    obtain ⟨hs, hl⟩ := h.stopped hc
    exact ⟨by simp only [List.map_append, ← hs, List.append_assoc], hl⟩
  have hr := h.running hc
  obtain ⟨pc, queue, sent, out, lost, dropped⟩ := s
  cases e with
  | arrive g =>
    refine echoes_running (by simp [step, hc]) ?_
    simp only [step, if_neg hc, arrivals, List.filterMap_cons, List.filterMap_nil,
      List.map_append, ← hr, List.append_assoc]
  | next =>
    cases pc with
    | recv =>
      cases queue with
      | nil => simpa [step, arrivals] using h
      | cons g queue =>
        refine echoes_running (by simp [step]) ?_
        simpa [step, inFlight, arrivals] using hr
    | got g =>
      exact echoes_running (by simp [step]) (by simpa [step, inFlight, arrivals] using hr)
    | send g =>
      exact echoes_running (by simp [step]) (by simpa [step, inFlight, arrivals] using hr)
    | sent addr =>
      exact echoes_running (by simp [step]) (by simpa [step, inFlight, arrivals] using hr)
    | closed => exact absurd rfl hc
  | interrupt => simpa [step, hc, arrivals] using echoes_close hc h (printLine out shutdownLine)
  | sendError =>
    cases pc with
    | send g => simpa [step, arrivals, inFlight] using echoes_close hc h out
    | recv => simpa [step, arrivals] using h
    | got g => simpa [step, arrivals] using h
    | sent addr => simpa [step, arrivals] using h
    | closed => exact absurd rfl hc

/-- Every run keeps the account of the datagrams, counting those that arrived in it. -/
theorem echoes_run {arrived : List Datagram} {s : Server} (h : Echoes arrived s)
    (events : List Event) : Echoes (arrived ++ arrivals events) (run s events) := by
  induction events generalizing arrived s with
  | nil => simpa [run, arrivals] using h
  | cons e events ih =>
    rw [arrivals_cons, ← List.append_assoc]
    exact ih (echoes_step h e)

/-- What the server sent is a prefix of the datagrams that arrived, cut to the buffer
size. -/
theorem Echoes.sent_prefix {arrived : List Datagram} {s : Server} (h : Echoes arrived s) :
    s.sent <+: arrived.map Datagram.received := by
  by_cases hc : s.pc = .closed
  · rw [← (h.stopped hc).1, List.append_assoc]
    exact List.prefix_append _ _
  · rw [← h.running hc, List.append_assoc]
    exact List.prefix_append _ _

theorem start_pc {argv : List (List Char)} {bindPort : Nat → Option (List Char)} {s : Server}
    (h : start argv bindPort = .ok s) : s.pc = .recv ∧ s.queue = [] ∧ s.sent = [] := by
  unfold start at h
  split at h
  · cases h
  · split_ifs at h
    split at h
    · cases h
    · cases h
      exact ⟨rfl, rfl, rfl⟩

/-- Over every run of the server from its start: it sends, in order, a prefix of the
datagrams that arrived, each cut to 4096 bytes, back to its sender; while it runs, every
datagram that arrived is sent, in flight or queued; once stopped, every datagram that
arrived was sent, lost or discarded, and at most one was lost. -/
theorem run_echoes {argv : List (List Char)} {bindPort : Nat → Option (List Char)}
    {s : Server} (h : start argv bindPort = .ok s) (events : List Event) :
    (run s events).sent <+: (arrivals events).map Datagram.received ∧
      Echoes (arrivals events) (run s events) := by
  obtain ⟨hpc, hq, hs⟩ := start_pc h
  have h0 : Echoes [] s := echoes_running (by simp [hpc]) (by simp [hpc, hq, hs, inFlight])
  have := echoes_run h0 events
  rw [List.nil_append] at this
  exact ⟨this.sent_prefix, this⟩

/-- The server `main` starts without an argument, where the system binds port 5555. -/
def listening : Server :=
  ⟨.recv, [], [], printLine [] "UDP echo server listening on port 5555".toList, [], []⟩

/-- A datagram `hi` from `10.0.2.15:40000`. -/
def hello : Datagram := ⟨[104, 105], ⟨10, 0, 2, 15, 40000⟩⟩

/-- Interrupted after taking `hi` from the socket, the server has sent nothing, and `hi`
is the one datagram lost. -/
theorem run_echoes_interrupted :
    start ["udp_echo_server.py".toList] (fun _ => none) = .ok listening ∧
      ((run listening [.arrive hello, .next, .interrupt]).sent <+:
          (arrivals [.arrive hello, .next, .interrupt]).map Datagram.received ∧
        Echoes (arrivals [.arrive hello, .next, .interrupt])
          (run listening [.arrive hello, .next, .interrupt])) :=
  have h : start ["udp_echo_server.py".toList] (fun _ => none) = .ok listening := rfl
  ⟨h, run_echoes h _⟩

/-- The two lines the loop prints for a datagram it echoes. -/
def exchangeText (g : Datagram) : List Char :=
  receivedLine g ++ ['\n'] ++ echoedLine g.addr ++ ['\n']

/-- With no interrupt and no error, four statements per queued datagram echo them all: the
server is back in `recvfrom` with nothing queued, has sent each datagram cut to the buffer
size, and has printed the two lines of each. -/
theorem run_next_drains (s : Server) (h : s.pc = .recv) :
    run s (List.replicate (4 * s.queue.length) .next) =
      ⟨.recv, [], s.sent ++ s.queue.map Datagram.received,
        s.out ++ (s.queue.map fun g => exchangeText g.received).flatten, s.lost, s.dropped⟩ := by
  obtain ⟨pc, queue, sent, out, lost, dropped⟩ := s
  subst h
  induction queue generalizing sent out with
  | nil => simp [run]
  | cons g queue ih =>
    have := ih (sent ++ [g.received])
      (printLine (printLine out (receivedLine g.received)) (echoedLine g.received.addr))
    simp only [List.length_cons, Nat.mul_succ, List.replicate_succ, run, List.foldl_cons,
      step] at this ⊢
    rw [this]
    simp [printLine, exchangeText, List.append_assoc]

/-- Four statements echo one queued `hi`. -/
theorem run_next_drains_hello :
    (⟨.recv, [hello], [], [], [], []⟩ : Server).pc = .recv ∧
      run ⟨.recv, [hello], [], [], [], []⟩ (List.replicate (4 * [hello].length) .next) =
        ⟨.recv, [], [] ++ [hello].map Datagram.received,
          [] ++ ([hello].map fun g => exchangeText g.received).flatten, [], []⟩ :=
  ⟨rfl, run_next_drains _ rfl⟩

end PicoScripts.Udp
