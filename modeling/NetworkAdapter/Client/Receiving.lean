import NetworkAdapter.Client.Connection

/-!
# What the client makes of a line

A line that is a task is queued, and any other is skipped with a warning: no exception of
an iteration that has got its line reaches the handler that reconnects. At the end of the
stream `readline` returns an empty line, which is skipped like the others, and the next
one at once. `ClosureNoticed` says what the loop should do instead.
-/

namespace NetworkAdapter

/-- The data of a line that is a task. -/
def TextCodec.task? (codec : TextCodec) (raw : List UInt8) : Option Json :=
  match codec.parse raw with
  | .ok (.obj fields) =>
      if (JsonObject.get fields "type").equals (.str "task") then Fields.get? fields "data"
      else none
  | _ => none

namespace Client

/-- An iteration that has got its line queues the task, if there is one. -/
theorem receiveMessage_run (codec : TextCodec) (raw : List UInt8) (client : Client) :
    (receiveMessage codec (.ok raw)).run client =
      .ok () { client with taskQueue := client.taskQueue ++ (codec.task? raw).toList } := by
  unfold receiveMessage TextCodec.task?
  cases parsed : codec.parse raw with
  | error error => simp [parsed]
  | ok message =>
      cases message with
      | obj fields =>
          by_cases isTask : (JsonObject.get fields "type").equals (.str "task") = true
          · cases found : Fields.get? fields "data" <;>
              simp [parsed, isTask, found, Json.subscript]
          · simp [parsed, isTask]
      | _ => simp [parsed, Json.get]

theorem receive_line (codec : TextCodec) (raw : List UInt8) (client : Client) :
    receive codec (.ok raw) client =
      { client with taskQueue := client.taskQueue ++ (codec.task? raw).toList } := by
  rw [receive, receiveMessage_run]

/-- A failed read is what the outer handler sees. -/
theorem receive_failed (codec : TextCodec) (error : PyError) (client : Client) :
    receive codec (.error error) client = { client with receiving := .pausing } := by
  simp [receive, receiveMessage]

/-- The client after lines that `readline` has returned. -/
def receiveLines (codec : TextCodec) (lines : List (List UInt8)) (client : Client) : Client :=
  lines.foldl (fun client raw => receive codec (.ok raw) client) client

/-- Each task is queued once, in order, and nothing else happens. -/
theorem receiveLines_eq (codec : TextCodec) (lines : List (List UInt8)) (client : Client) :
    receiveLines codec lines client =
      { client with taskQueue := client.taskQueue ++ lines.filterMap codec.task? } := by
  induction lines generalizing client with
  | nil => simp [receiveLines]
  | cons raw rest inductionHypothesis =>
      have after : receiveLines codec (raw :: rest) client =
          receiveLines codec rest (receive codec (.ok raw) client) := rfl
      rw [after, inductionHypothesis, receive_line]
      cases found : codec.task? raw <;> simp [found]

/-- `connect_to_server` was called, or will be after a pause and before the next read. -/
def Reconnects (before after : Client) : Prop :=
  before.calls < after.calls ∨ after.receiving = .pausing

/-- The tasks among the lines are queued, the other lines are skipped without reconnecting,
and at the end of the stream, where `readline` returns an empty line, the client reconnects. -/
structure ClosureNoticed (codec : TextCodec) (lines : List (List UInt8)) (client : Client) :
    Prop where
  queued : (receiveLines codec lines client).taskQueue =
    client.taskQueue ++ lines.filterMap codec.task?
  skipped : ¬ Reconnects client (receiveLines codec lines client)
  noticed : Reconnects (receiveLines codec lines client)
    (receive codec (.ok []) (receiveLines codec lines client))

/-- The end of the stream is never noticed. -/
theorem closure_never_noticed (codec : TextCodec) (lines : List (List UInt8)) (client : Client)
    (reading : client.receiving = .reading) : ¬ ClosureNoticed codec lines client := by
  rintro ⟨_, _, noticed⟩
  rw [receive_line, receiveLines_eq] at noticed
  rcases noticed with called | pauses
  · exact Nat.lt_irrefl _ called
  · have same : client.receiving = .pausing := pauses
    rw [reading] at same
    cases same

/-- The text functions, for streams without JSON. -/
def plainCodec : TextCodec := ⟨Text.decode, Text.strip, fun _ => .error .jsonDecodeError⟩

/-- The client with its first connection open. -/
def connected : Client := step plainCodec init (.attempted .run true)

theorem closure_unnoticed_after_lines :
    ¬ ClosureNoticed plainCodec [Text.encode "ping\n", [Text.newline]] connected :=
  closure_never_noticed plainCodec [Text.encode "ping\n", [Text.newline]] connected rfl

/-- The connection is closed, and the next iteration stands where this one did. -/
theorem closed_connection_spins :
    connected.receiving = .reading ∧ ¬ ClosureNoticed plainCodec [] connected := by
  refine ⟨rfl, fun noticed => ?_⟩
  have reconnects := noticed.noticed
  rw [receive_line] at reconnects
  rcases reconnects with called | pauses
  · exact Nat.lt_irrefl _ called
  · cases pauses

end Client
end NetworkAdapter
