import NetworkAdapter.Semantics.Execution
import NetworkAdapter.Server.ClientConnect
import NetworkAdapter.Std.Text

/-!
# What a received line does

`received` classifies a read: the message it carries if the loop of `handle_rpc`
can process it, nothing if the iteration raises. `serveLine_run` is the whole
behaviour of one iteration in those terms. Because the exit test reads a bound
method, a line without a message ends the handler, and
`lines_keep_serving_iff` says exactly which line sequences a client survives.
-/

namespace NetworkAdapter.ClientConnectServer

open Execution

/-- The messages `handle_rpc` tells apart. -/
inductive Message where
  | heartbeat
  | taskResult (result : JsonObject) (taskId : Json)
  | other

/-- The message a decoded object is; a `task_result` needs an object with a task id. -/
def messageOf (fields : JsonObject) : Option Message :=
  if (JsonObject.get fields "type").equals (.str "heartbeat") then some .heartbeat
  else if (JsonObject.get fields "type").equals (.str "task_result") then
    match JsonObject.get fields "data" with
    | .obj result => (Fields.get? result "task_id").map (.taskResult result)
    | _ => none
  else some .other

/-- The message a read delivers, if it is well formed. -/
def received (codec : TextCodec) (read : Readline) : Option Message :=
  match read.result.bind codec.parse with
  | .ok (.obj fields) => messageOf fields
  | _ => none

/-- The server after a heartbeat of a registered client. -/
def refreshed (clientIp : String) (info : ClientInfo) (now : Nat)
    (server : ClientConnectServer) : ClientConnectServer :=
  { server with connectedClients :=
      server.connectedClients.set clientIp { info with lastHeartbeatTime := now } }

@[simp] theorem handleHeartbeat_run (clientIp : String) (now : Nat)
    (server : ClientConnectServer) :
    (handleHeartbeat clientIp now).run server =
      match server.connectedClients.get? clientIp with
      | some info => .ok () (refreshed clientIp info now server)
      | none => .error (.keyError clientIp) server := by
  cases found : server.connectedClients.get? clientIp <;>
    simp [handleHeartbeat, refreshed, found]

@[simp] theorem forgetClient_run (clientIp : String) (server : ClientConnectServer) :
    (forgetClient clientIp).run server =
      match server.connectedClients.get? clientIp with
      | some _ =>
          .ok () { server with connectedClients := server.connectedClients.erase clientIp }
      | none => .error (.keyError clientIp) server := by
  cases found : server.connectedClients.get? clientIp <;> simp [forgetClient, found]

/-- The table after an upsert that reached the file or did not. -/
def stored (writes : Bool) (now : Nat) (fields : JsonObject) (taskId : Json)
    (server : ClientConnectServer) : ClientConnectServer :=
  if writes then
    { server with operationTaskData :=
        server.operationTaskData.asyncUpsertByKey fields "task_id" taskId now }
  else server

/-- A record with an id is stored, and a failed write is swallowed. -/
theorem updateTask_run_of_id {fields : JsonObject} {taskId : Json}
    (identified : Fields.get? fields "task_id" = some taskId) (now : Nat) (writes : Bool)
    (server : ClientConnectServer) :
    (updateTask (.obj fields) now writes).run server =
      .ok () (stored writes now fields taskId server) := by
  cases writes <;> simp [updateTask, Json.subscript, identified, upsertTask, stored]

theorem updateTask_run_of_no_id {taskData : Json} {error : PyError}
    (anonymous : taskData.subscript "task_id" = .error error) (now : Nat) (writes : Bool)
    (server : ClientConnectServer) :
    (updateTask taskData now writes).run server = .error error server := by
  simp [updateTask, anonymous]

/-- One iteration of the loop: a well-formed line has its effect, and a line that
is not well formed reaches `break` with the server as it was. -/
theorem serveLine_run (codec : TextCodec) (handler : Handler) (read : Readline) (now : Nat)
    (writes : Bool) (server : ClientConnectServer) :
    (serveLine codec handler read now writes).run server =
      match received codec read with
      | none => .ok true server
      | some .other => .ok false server
      | some (.taskResult result taskId) => .ok false (stored writes now result taskId server)
      | some .heartbeat =>
          match server.connectedClients.get? handler.clientIp with
          | some info => .ok false (refreshed handler.clientIp info now server)
          | none => .ok true server := by
  unfold serveLine received
  cases rawRead : read.result with
  | error error => simp [readerException, Except.bind]
  | ok raw =>
    cases parsed : codec.parse raw with
    | error error => simp [readerException, Except.bind, parsed]
    | ok data =>
      cases data with
      | obj fields =>
          by_cases heartbeat : (JsonObject.get fields "type").equals (.str "heartbeat") = true
          · have noResult : (JsonObject.get fields "type").equals (.str "task_result") = false := by
              rw [(Json.equals_str_right _ _).mp heartbeat]
              decide
            cases found : server.connectedClients.get? handler.clientIp <;>
              simp [Except.bind, parsed, messageOf, readerException, heartbeat, noResult, found]
          · by_cases result : (JsonObject.get fields "type").equals (.str "task_result") = true
            · cases data : JsonObject.get fields "data" with
              | obj record =>
                  cases identified : Fields.get? record "task_id" with
                  | some taskId =>
                      simp [Except.bind, parsed, messageOf, heartbeat, result, data, identified,
                        handleTaskResult, updateTask_run_of_id]
                  | none =>
                      have anonymous : (Json.obj record).subscript "task_id" =
                          .error (.keyError "task_id") := by simp [Json.subscript, identified]
                      simp [Except.bind, parsed, messageOf, readerException, heartbeat, result,
                        data, identified, handleTaskResult, updateTask_run_of_no_id anonymous]
              | _ =>
                  simp [Except.bind, parsed, messageOf, readerException, heartbeat, result, data,
                    handleTaskResult, updateTask_run_of_no_id, Json.subscript]
            · simp [Except.bind, parsed, messageOf, heartbeat, result]
      | _ => simp [readerException, Except.bind, parsed, Json.get]

/-- The ways one read of a served connection can end, each with the server it leaves. -/
inductive ReadDone (codec : TextCodec) (handler : Handler) (read : Readline) (now : Nat)
    (writes : Bool) (server : ClientConnectServer) : ClientConnectServer → Prop where
  | malformed (nothing : received codec read = none) :
      ReadDone codec handler read now writes server (endHandler handler server)
  | unregistered (delivers : received codec read = some .heartbeat)
      (missing : server.connectedClients.get? handler.clientIp = none) :
      ReadDone codec handler read now writes server (endHandler handler server)
  | heartbeat {info : ClientInfo} (delivers : received codec read = some .heartbeat)
      (found : server.connectedClients.get? handler.clientIp = some info) :
      ReadDone codec handler read now writes server (refreshed handler.clientIp info now server)
  | taskResult {result : JsonObject} {taskId : Json}
      (delivers : received codec read = some (.taskResult result taskId)) :
      ReadDone codec handler read now writes server (stored writes now result taskId server)
  | other (delivers : received codec read = some .other) :
      ReadDone codec handler read now writes server server

/-- Every read ends in one of those ways. -/
theorem readConnection_done (codec : TextCodec) (handler : Handler) (read : Readline) (now : Nat)
    (writes : Bool) (server : ClientConnectServer) :
    ReadDone codec handler read now writes server
      (readConnection codec handler read now writes server) := by
  unfold readConnection
  rw [serveLine_run]
  cases delivers : received codec read with
  | none => exact .malformed delivers
  | some message =>
      cases message with
      | heartbeat =>
          cases found : server.connectedClients.get? handler.clientIp with
          | none => exact .unregistered delivers found
          | some info => exact .heartbeat delivers found
      | taskResult result taskId => exact .taskResult delivers
      | other => exact .other delivers

/-- Leaving the loop frees the slot of the IP, whoever holds it, and ends this handler. -/
theorem endHandler_eq (handler : Handler) (server : ClientConnectServer) :
    ∃ clients, endHandler handler server = { server with
        connectedClients := clients
        serving := server.serving.filter fun other => other.connection ≠ handler.connection } ∧
      ∀ clientIp, clients.get? clientIp =
        if handler.clientIp = clientIp then none else server.connectedClients.get? clientIp := by
  cases found : server.connectedClients.get? handler.clientIp with
  | none =>
      refine ⟨server.connectedClients, by simp [endHandler, Effect.leaves, found], ?_⟩
      intro clientIp
      split
      · next same => rw [← same, found]
      · rfl
  | some info =>
      refine ⟨server.connectedClients.erase handler.clientIp,
        by simp [endHandler, Effect.leaves, found], ?_⟩
      intro clientIp
      exact Dict.get?_erase _ _ _

/-- A connection being served whose IP has the given entry. -/
structure Attended (handler : Handler) (info : ClientInfo) (server : ClientConnectServer) :
    Prop where
  served : server.serving.find? (fun other => other.connection = handler.connection) = some handler
  registered : server.connectedClients.get? handler.clientIp = some info

/-- The reads of a sequence of lines on one connection, with the clock at each,
while database writes succeed. -/
def lineReads (connection : Nat) (lines : List (List UInt8 × Nat)) : List Event :=
  lines.map fun line => .lineRead connection (.line line.1) line.2 true

/-- The time of the last heartbeat among the lines. -/
def lastHeartbeat (codec : TextCodec) (start : Nat) (lines : List (List UInt8 × Nat)) : Nat :=
  lines.foldl (fun latest line =>
    match received codec (.line line.1) with
    | some .heartbeat => line.2
    | _ => latest) start

/-- A table with every well-formed result among the lines applied to it. -/
def withResults (codec : TextCodec) (table : Table) (lines : List (List UInt8 × Nat)) : Table :=
  lines.foldl (fun current line =>
    match received codec (.line line.1) with
    | some (.taskResult result taskId) =>
        current.asyncUpsertByKey result "task_id" taskId line.2
    | _ => current) table

/-- After the lines the client is still served and in `connected_clients`, every
heartbeat among them was noted and every well-formed result applied. -/
def KeepsServing (codec : TextCodec) (handler : Handler) (info : ClientInfo)
    (lines : List (List UInt8 × Nat)) (server : ClientConnectServer) : Prop :=
  let after := run (step codec) server (lineReads handler.connection lines)
  Attended handler
      { info with lastHeartbeatTime := lastHeartbeat codec info.lastHeartbeatTime lines } after ∧
    after.operationTaskData = withResults codec server.operationTaskData lines

theorem step_lineRead_of_served (codec : TextCodec) {handler : Handler}
    {server : ClientConnectServer}
    (served : server.serving.find? (fun other => other.connection = handler.connection) =
      some handler) (read : Readline) (now : Nat) (writes : Bool) :
    step codec server (.lineRead handler.connection read now writes) =
      readConnection codec handler read now writes server := by
  simp only [step, served]

/-- Nobody reads a connection whose handler is gone. -/
theorem run_lineReads_of_unserved (codec : TextCodec) {connection : Nat}
    {server : ClientConnectServer}
    (unserved : server.serving.find? (fun other => other.connection = connection) = none)
    (lines : List (List UInt8 × Nat)) :
    run (step codec) server (lineReads connection lines) = server := by
  induction lines with
  | nil => rfl
  | cons line rest inductionHypothesis =>
      have ignored :
          step codec server (.lineRead connection (.line line.1) line.2 true) = server := by
        simp only [step, unserved]
      simpa only [lineReads, List.map_cons, run_cons, ignored] using inductionHypothesis

theorem endHandler_unserved (handler : Handler) (server : ClientConnectServer) :
    (endHandler handler server).serving.find?
      (fun other => other.connection = handler.connection) = none := by
  obtain ⟨clients, equation, _⟩ := endHandler_eq handler server
  rw [equation, List.find?_eq_none]
  intro other member
  simpa using (List.mem_filter.mp member).2

/-- A line with a message keeps the client attended and has its effect. -/
theorem readConnection_of_message {codec : TextCodec} {handler : Handler} {info : ClientInfo}
    {server : ClientConnectServer} (attended : Attended handler info server)
    {line : List UInt8 × Nat} {message : Message}
    (delivers : received codec (.line line.1) = some message) :
    let after := readConnection codec handler (.line line.1) line.2 true server
    Attended handler
        { info with lastHeartbeatTime := lastHeartbeat codec info.lastHeartbeatTime [line] } after ∧
      after.operationTaskData = withResults codec server.operationTaskData [line] := by
  obtain ⟨served, registered⟩ := attended
  cases message with
  | heartbeat =>
      simp only [readConnection, serveLine_run, delivers, registered, refreshed, lastHeartbeat,
        withResults, List.foldl_cons, List.foldl_nil]
      exact ⟨⟨served, by simp⟩, trivial⟩
  | taskResult result taskId =>
      simp only [readConnection, serveLine_run, delivers, stored, lastHeartbeat, withResults,
        List.foldl_cons, List.foldl_nil, if_true]
      exact ⟨⟨served, registered⟩, trivial⟩
  | other =>
      simp only [readConnection, serveLine_run, delivers, lastHeartbeat, withResults,
        List.foldl_cons, List.foldl_nil]
      exact ⟨⟨served, registered⟩, trivial⟩

/-- A client survives a sequence of lines exactly when every line of it is well
formed: at most the reader's limit of text that decodes to an object, with an
identified object as data where its type is `task_result`. -/
theorem lines_keep_serving_iff (codec : TextCodec) (handler : Handler) (info : ClientInfo)
    (server : ClientConnectServer) (attended : Attended handler info server)
    (lines : List (List UInt8 × Nat)) :
    KeepsServing codec handler info lines server ↔
      ∀ line ∈ lines, (received codec (.line line.1)).isSome := by
  induction lines generalizing server info with
  | nil => simpa [KeepsServing, lineReads, lastHeartbeat, withResults] using attended
  | cons line rest inductionHypothesis =>
      have read := step_lineRead_of_served codec attended.served (.line line.1) line.2 true
      cases delivers : received codec (.line line.1) with
      | none =>
          -- The handler is gone after this line, and with it the entry of its client.
          have ended : readConnection codec handler (.line line.1) line.2 true server =
              endHandler handler server := by
            simp only [readConnection, serveLine_run, delivers]
          have unserved := endHandler_unserved handler server
          constructor
          · rintro ⟨still, _⟩
            simp only [lineReads, List.map_cons, run_cons, read, ended] at still
            have silent := run_lineReads_of_unserved codec unserved rest
            simp only [lineReads] at silent
            rw [silent] at still
            exact absurd (still.served.symm.trans unserved) (by simp)
          · intro wellFormed
            simpa [delivers] using wellFormed line List.mem_cons_self
      | some message =>
          obtain ⟨next, table⟩ := readConnection_of_message attended delivers
          have later := inductionHypothesis _ _ next
          simp only [List.forall_mem_cons, delivers, Option.isSome_some, true_and]
          rw [← later]
          simp only [KeepsServing, lineReads, List.map_cons, run_cons, read, table]
          rfl

/-- A codec for the runs below: it reads plain ASCII, and of JSON nothing but the
heartbeat message a client sends. -/
def heartbeatCodec : TextCodec where
  decode raw :=
    if raw.all (· < 128) then .ok (String.ofList (raw.map fun byte => Char.ofNat byte.toNat))
    else .error .unicodeDecodeError
  strip := Text.strip
  loads text :=
    if text = "\x7b\"type\": \"heartbeat\"\x7d" then .ok (.obj [("type", .str "heartbeat")])
    else .error .jsonDecodeError

/-- One client just connected. -/
def oneClient : ClientConnectServer := openConnection "10.0.0.1" 40000 3 (init [])

/-- A heartbeat keeps the client and is noted. -/
theorem heartbeat_keeps_serving :
    KeepsServing heartbeatCodec ⟨0, "10.0.0.1", 40000⟩ ⟨0, 0, "10.0.0.1", 40000, 3⟩
      [("\x7b\"type\": \"heartbeat\"\x7d\n".toByteArray.data.toList, 9)] oneClient :=
  (lines_keep_serving_iff heartbeatCodec ⟨0, "10.0.0.1", 40000⟩ ⟨0, 0, "10.0.0.1", 40000, 3⟩
    oneClient ⟨by decide, by decide⟩ _).mpr (by decide)

/-- One line of text which is not JSON takes the client offline. -/
theorem text_line_ends_handler :
    ¬ KeepsServing heartbeatCodec ⟨0, "10.0.0.1", 40000⟩ ⟨0, 0, "10.0.0.1", 40000, 3⟩
      [("x\n".toByteArray.data.toList, 9)] oneClient := by
  intro keeps
  have served := keeps.1.served
  revert served
  decide

end NetworkAdapter.ClientConnectServer
