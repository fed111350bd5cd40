import NetworkAdapter.Client.Connection
import NetworkAdapter.Semantics.Execution
import NetworkAdapter.Std.Lines

/-!
# Messages over a connection

Server and client frame messages alike, each with its own code: a message is dumped to
one line, encoded and followed by a newline; the peer's loop reads a line, decodes, strips
and loads it. A `Link` is one direction of a connection. Writing, the arrival of any
number of bytes and iterations of the loop come in any order, and the loop gets the
messages that were written, each once and in order.
-/

namespace NetworkAdapter

open Execution

/-- `json.dumps` and `json.loads`. -/
structure JsonText where
  dumps : Json → String
  loads : String → Except PyError Json

/-- The text functions of both receivers. -/
def JsonText.codec (json : JsonText) : TextCodec := ⟨Text.decode, Text.strip, json.loads⟩

/-- What the library promises of a message: loading undoes dumping, and the text of an object
stands between braces without a newline. The line fits into a stream reader. -/
structure JsonText.Sendable (json : JsonText) (message : JsonObject) : Prop where
  undone : json.loads (json.dumps (.obj message)) = .ok (.obj message)
  braced : ∃ inner, json.dumps (.obj message) = "\x7b" ++ inner ++ "\x7d"
  newlineFree : '\n' ∉ (json.dumps (.obj message)).toList
  within : (Text.encode (json.dumps (.obj message))).length ≤ Readline.limit

/-- `data_str = json.dumps(data)` and `data_str.encode() + b'\n'`, what `_safe_send` writes. -/
def ClientConnectServer.lineBytes (json : JsonText) (data : Json) : List UInt8 :=
  let dataStr := json.dumps data
  Text.encode dataStr ++ [Text.newline]

/-- Who writes. -/
inductive Direction where
  | toServer
  | toClient

/-- What a message is written as. The callers of the client's `_safe_send` dump it. -/
def Direction.lineBytes (json : JsonText) (message : JsonObject) : Direction → List UInt8
  | .toServer => Client.lineBytes (json.dumps (.obj message))
  | .toClient => ClientConnectServer.lineBytes json (.obj message)

/-- `readline` of a reader that has not met the end of its stream, with what it leaves in the
buffer. It waits for more unless a line is there or the buffer exceeds the limit without one. -/
def readline (buffer : List UInt8) : Option (Except PyError (List UInt8) × List UInt8) :=
  match Lines.splitLine? Text.newline buffer with
  | some (raw, behind) => some ((Readline.line raw).result, behind)
  | none => if Readline.limit < buffer.length then some (.error .valueError, []) else none

/-- One direction of a connection: the messages written, the bytes on their way, those in the
reader's buffer, and what `readline` returned. -/
structure Link where
  sent : List JsonObject
  inFlight : List UInt8
  buffer : List UInt8
  reads : List (Except PyError (List UInt8))

inductive LinkEvent where
  | sent (message : JsonObject)
  /-- This many bytes arrive as one chunk. -/
  | arrived (count : Nat)
  /-- The receiving loop comes to `readline`, or resumes it. -/
  | iterated

namespace Link

/-- Nothing written yet. -/
def init : Link := ⟨[], [], [], []⟩

def step (json : JsonText) (direction : Direction) (link : Link) : LinkEvent → Link
  | .sent message =>
      { link with
        sent := link.sent ++ [message]
        inFlight := link.inFlight ++ direction.lineBytes json message }
  | .arrived count =>
      { link with
        inFlight := link.inFlight.drop count
        buffer := link.buffer ++ link.inFlight.take count }
  | .iterated =>
      match readline link.buffer with
      | some (read, behind) => { link with buffer := behind, reads := link.reads ++ [read] }
      | none => link

/-- What the loop gets from its lines. -/
def yielded (json : JsonText) (link : Link) : List (Except PyError Json) :=
  link.reads.map fun read => read.bind json.codec.parse

/-- The loop has got messages in the order they were sent, and once all bytes have arrived,
iterations of the loop get all of them. -/
structure RoundTrip (json : JsonText) (direction : Direction) (link : Link) : Prop where
  inOrder : link.yielded json <+: link.sent.map fun message => .ok (.obj message)
  complete : link.inFlight = [] →
    (run (step json direction) link (List.replicate link.sent.length .iterated)).yielded json =
      link.sent.map fun message => .ok (.obj message)

/-- The text of a message without its newline. -/
def lineOf (json : JsonText) (message : JsonObject) : List UInt8 :=
  Text.encode (json.dumps (.obj message))

theorem lineBytes_eq (json : JsonText) (message : JsonObject) (direction : Direction) :
    direction.lineBytes json message = lineOf json message ++ [Text.newline] := by
  cases direction <;> rfl

/-- The receiver gets back what the sender dumped. -/
theorem parse_line {json : JsonText} {message : JsonObject} (sendable : json.Sendable message) :
    json.codec.parse (lineOf json message ++ [Text.newline]) = .ok (.obj message) := by
  obtain ⟨inner, text⟩ := sendable.braced
  have line : lineOf json message ++ [Text.newline] =
      Text.encode (json.dumps (.obj message) ++ "\n") := by
    rw [Text.encode_append, Text.encode_newline, lineOf]
  have stripped : Text.strip (json.dumps (.obj message) ++ "\n") = json.dumps (.obj message) := by
    have characters : (json.dumps (.obj message)).toList =
        ('\x7b' :: inner.toList) ++ ['\x7d'] := by
      simp [text]
    refine Text.strip_append_newline (fun character found => ?_) (fun character found => ?_)
    · obtain rfl : '\x7b' = character := by simpa [characters] using found
      decide
    · obtain rfl : '\x7d' = character := by simpa only [characters, List.getLast?_concat,
        Option.mem_def, Option.some.injEq] using found
      decide
  simp only [JsonText.codec, TextCodec.parse, line, Text.decode_encode]
  show json.loads (Text.strip _) = _
  rw [stripped, sendable.undone]

/-- Of the messages sent some were read, and those still unread are what has not been taken
from the stream. -/
structure Framed (json : JsonText) (read unread : List JsonObject) (link : Link) : Prop where
  sent : link.sent = read ++ unread
  sendable : ∀ message ∈ link.sent, json.Sendable message
  reads : link.reads = read.map fun message => .ok (lineOf json message ++ [Text.newline])
  pending : link.buffer ++ link.inFlight = Lines.stream Text.newline (unread.map (lineOf json))

theorem Framed.yielded {json : JsonText} {read unread : List JsonObject} {link : Link}
    (framed : Framed json read unread link) :
    link.yielded json = read.map fun message => .ok (.obj message) := by
  rw [Link.yielded, framed.reads, List.map_map]
  refine List.map_congr_left fun message member => parse_line (framed.sendable message ?_)
  rw [framed.sent]
  exact List.mem_append_left _ member

/-- The reader waits, or has the next message and takes it. -/
theorem Framed.readline {json : JsonText} {read : List JsonObject} {message : JsonObject}
    {later : List JsonObject} {link : Link} (framed : Framed json read (message :: later) link) :
    (∃ behind, NetworkAdapter.readline link.buffer =
        some (.ok (lineOf json message ++ [Text.newline]), behind) ∧
      behind ++ link.inFlight = Lines.stream Text.newline (later.map (lineOf json))) ∨
    (NetworkAdapter.readline link.buffer = none ∧ link.buffer <+: lineOf json message) := by
  have sendable : json.Sendable message := framed.sendable message (by simp [framed.sent])
  have free : Text.newline ∉ lineOf json message :=
    fun member => sendable.newlineFree (Text.newline_mem_encode member)
  have within : (lineOf json message).length ≤ Readline.limit := sendable.within
  rcases Lines.splitLine?_of_stream free framed.pending with ⟨behind, found, rest⟩ | ⟨none, part⟩
  · refine .inl ⟨behind, ?_, rest⟩
    simp [NetworkAdapter.readline, found, Readline.result, within]
  · have short : ¬ Readline.limit < link.buffer.length := by
      have := part.length_le
      omega
    exact .inr ⟨by simp [NetworkAdapter.readline, none, short], part⟩

/-- With no message unread the reader waits. -/
theorem Framed.readline_nil {json : JsonText} {read : List JsonObject} {link : Link}
    (framed : Framed json read [] link) : NetworkAdapter.readline link.buffer = none := by
  have empty : link.buffer = [] := (List.append_eq_nil_iff.mp framed.pending).1
  simp [NetworkAdapter.readline, empty, Lines.splitLine?]

theorem Framed.step {json : JsonText} {direction : Direction} {read unread : List JsonObject}
    {link : Link} (framed : Framed json read unread link) (event : LinkEvent)
    (sendable : ∀ message, event = .sent message → json.Sendable message) :
    ∃ read' unread', Framed json read' unread' (Link.step json direction link event) := by
  obtain ⟨sent, good, reads, pending⟩ := framed
  cases event with
  | sent message =>
      refine ⟨read, unread ++ [message], ?_, ?_, reads, ?_⟩
      · simp [Link.step, sent]
      · exact List.forall_mem_append.mpr ⟨good, by simpa using sendable message rfl⟩
      · show link.buffer ++ (link.inFlight ++ direction.lineBytes json message) = _
        rw [← List.append_assoc, pending, lineBytes_eq, List.map_append, Lines.stream_append]
        simp [Lines.stream]
  | arrived count =>
      refine ⟨read, unread, sent, good, reads, ?_⟩
      show link.buffer ++ link.inFlight.take count ++ link.inFlight.drop count = _
      rw [List.append_assoc, List.take_append_drop, pending]
  | iterated =>
      have framed : Framed json read unread link := ⟨sent, good, reads, pending⟩
      cases unread with
      | nil =>
          rw [Link.step, framed.readline_nil]
          exact ⟨read, [], framed⟩
      | cons message later =>
          rcases framed.readline with ⟨behind, found, rest⟩ | ⟨none, _⟩
          · rw [Link.step, found]
            exact ⟨read ++ [message], later, by simp [sent], good, by simp [reads], rest⟩
          · rw [Link.step, none]
            exact ⟨read, message :: later, framed⟩

/-- Once all bytes have arrived, each iteration reads one message. -/
theorem Framed.iterated {json : JsonText} (direction : Direction) {read unread : List JsonObject}
    {link : Link} (framed : Framed json read unread link) (arrived : link.inFlight = [])
    {iterations : Nat} (enough : unread.length ≤ iterations) :
    Framed json (read ++ unread) []
      (run (Link.step json direction) link (List.replicate iterations .iterated)) := by
  induction iterations generalizing read unread link with
  | zero =>
      obtain rfl := List.length_eq_zero_iff.mp (Nat.le_zero.mp enough)
      simpa using framed
  | succ iterations inductionHypothesis =>
      rw [List.replicate_succ, run_cons]
      cases unread with
      | nil =>
          rw [Link.step, framed.readline_nil]
          exact inductionHypothesis framed arrived (Nat.zero_le iterations)
      | cons message later =>
          rcases framed.readline with ⟨behind, found, rest⟩ | ⟨_, part⟩
          · obtain ⟨sent, good, reads, _⟩ := framed
            rw [Link.step, found, List.append_cons]
            exact inductionHypothesis ⟨by simp [sent], good, by simp [reads], rest⟩ arrived
              (Nat.le_of_succ_le_succ enough)
          · -- A line of which no byte is on its way is in the buffer to its end.
            have whole := framed.pending
            rw [arrived, List.append_nil] at whole
            have length := part.length_le
            rw [whole, List.map_cons, Lines.stream, List.flatMap_cons] at length
            simp only [List.length_append, List.length_singleton] at length
            omega

theorem Framed.roundTrip {json : JsonText} (direction : Direction) {read unread : List JsonObject}
    {link : Link} (framed : Framed json read unread link) : RoundTrip json direction link := by
  refine ⟨?_, fun arrived => ?_⟩
  · rw [framed.yielded, framed.sent, List.map_append]
    exact List.prefix_append _ _
  · have enough : unread.length ≤ link.sent.length := by simp [framed.sent]
    have all := framed.iterated direction arrived enough
    rw [all.yielded, framed.sent]

/-- A text with an accent and a line break in an object. -/
def accented : JsonObject := [("message", .str "\u00e9\n")]

/-- Its text, with everything but ASCII escaped. -/
def accentedDump : String := "\x7b\"message\": \"\\u00e9\\n\"\x7d"

/-- The library on that object. -/
def accentedText : JsonText where
  dumps _ := accentedDump
  loads text := if text = accentedDump then .ok (.obj accented) else .error .jsonDecodeError

theorem accented_sendable : accentedText.Sendable accented where
  undone := by simp [accentedText]
  braced := ⟨"\"message\": \"\\u00e9\\n\"", rfl⟩
  newlineFree := by decide
  within := by decide

end Link
end NetworkAdapter
