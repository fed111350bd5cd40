import NetworkAdapter.Server.Dispatch

/-!
# The table of connected clients

Handlers of one IP share one slot of `connected_clients`. `Registered` is what
the slot should say; a handler that ends while another of its IP is served frees
the slot under it. `registry_sound_iff` shows that this is the only way the
table goes wrong: the runs on which it is sound are exactly those on which every
handler that ends is the last of its IP.
-/

namespace NetworkAdapter.ClientConnectServer

open Execution

/-- The most recently opened connection of an IP that is still being served. -/
def latest (server : ClientConnectServer) (clientIp : String) : Option Handler :=
  (server.serving.filter fun handler => handler.clientIp = clientIp).getLast?

/-- An IP has an entry exactly while a connection of it is served, and the writer
of the entry is the one of the most recently opened such connection. -/
def Registered (server : ClientConnectServer) : Prop :=
  ∀ clientIp, (server.connectedClients.get? clientIp).map ClientInfo.writer =
    (server.latest clientIp).map Handler.connection

/-- The table is as it should be, and neither a heartbeat of a served connection
nor its `finally` would raise. -/
structure RegistrySound (server : ClientConnectServer) : Prop where
  registered : Registered server
  heartbeat : ∀ handler ∈ server.serving, ∀ now,
    ∃ after, (handleHeartbeat handler.clientIp now).run server = .ok () after
  farewell : ∀ handler ∈ server.serving,
    ∃ after, (forgetClient handler.clientIp).run server = .ok () after

/-- A read on which a handler leaves its loop finds no other handler of its IP. -/
def EndsAlone (codec : TextCodec) (server : ClientConnectServer) : Event → Prop
  | .lineRead connection read _ _ =>
      ∀ handler, server.serving.find? (fun other => other.connection = connection) = some handler →
        received codec read = none →
          ∀ other ∈ server.serving, other.clientIp = handler.clientIp → other = handler
  | _ => True

/-- Connection numbers identify handlers and are taken from the connections opened. -/
structure Numbered (server : ClientConnectServer) : Prop where
  distinct : (server.serving.map Handler.connection).Nodup
  opened : ∀ handler ∈ server.serving, handler.connection < server.peers.length

theorem Numbered.unique {server : ClientConnectServer} (numbered : Numbered server)
    {first second : Handler} (firstServed : first ∈ server.serving)
    (secondServed : second ∈ server.serving) (same : first.connection = second.connection) :
    first = second :=
  List.inj_on_of_nodup_map numbered.distinct firstServed secondServed same

/-- Every entry of the table names a transport of its IP. -/
def EntriesOwned (server : ClientConnectServer) : Prop :=
  ∀ clientIp info, server.connectedClients.get? clientIp = some info →
    server.peers[info.writer]? = some clientIp

/-- A served connection has an entry under its IP. -/
theorem Registered.entry {server : ClientConnectServer} (registered : Registered server)
    {handler : Handler} (served : handler ∈ server.serving) :
    ∃ info, server.connectedClients.get? handler.clientIp = some info := by
  have among : handler ∈ server.serving.filter fun other => other.clientIp = handler.clientIp := by
    simp [served]
  have present : server.latest handler.clientIp ≠ none := by
    intro absent
    rw [latest, List.getLast?_eq_none_iff] at absent
    simp [absent] at among
  cases found : server.connectedClients.get? handler.clientIp with
  | some info => exact ⟨info, rfl⟩
  | none =>
      have entry := registered handler.clientIp
      rw [found] at entry
      exact absurd (Option.map_eq_none_iff.mp entry.symm) present

/-- With every served connection registered, the two table accesses cannot fail. -/
theorem registrySound_iff (server : ClientConnectServer) :
    RegistrySound server ↔ Registered server := by
  constructor
  · exact RegistrySound.registered
  · intro registered
    refine ⟨registered, ?_, ?_⟩
    · intro handler served now
      obtain ⟨info, found⟩ := registered.entry served
      exact ⟨_, by rw [handleHeartbeat_run, found]⟩
    · intro handler served
      obtain ⟨info, found⟩ := registered.entry served
      exact ⟨_, by rw [forgetClient_run, found]⟩

/-- The part of the server the table depends on is unchanged. -/
structure SameClients (before after : ClientConnectServer) : Prop where
  connectedClients : after.connectedClients = before.connectedClients
  serving : after.serving = before.serving
  peers : after.peers = before.peers

theorem SameClients.registered {before after : ClientConnectServer}
    (same : SameClients before after) (registered : Registered before) : Registered after := by
  intro clientIp
  rw [same.connectedClients, latest, same.serving]
  exact registered clientIp

theorem SameClients.numbered {before after : ClientConnectServer}
    (same : SameClients before after) (numbered : Numbered before) : Numbered after := by
  refine ⟨?_, ?_⟩
  · rw [same.serving]
    exact numbered.distinct
  · rw [same.serving, same.peers]
    exact numbered.opened

theorem SameClients.entriesOwned {before after : ClientConnectServer}
    (same : SameClients before after) (owned : EntriesOwned before) : EntriesOwned after := by
  intro clientIp info found
  rw [same.connectedClients] at found
  rw [same.peers]
  exact owned clientIp info found

theorem stored_sameClients (writes : Bool) (now : Nat) (fields : JsonObject) (taskId : Json)
    (server : ClientConnectServer) :
    SameClients server (stored writes now fields taskId server) := by
  cases writes <;> exact ⟨rfl, rfl, rfl⟩

theorem takeTask_sameClients (task : QueuedTask) (now : Nat) (writes : Bool)
    (server : ClientConnectServer) : SameClients server (takeTask task now writes server) := by
  have taken := takeTask_taken task now writes server
  generalize takeTask task now writes server = after at taken
  cases taken with
  | absent =>
      obtain ⟨clients, serving, peers⟩ := stored_sameClients writes now _ _ server
      exact ⟨clients, serving, peers⟩
  | _ => exact ⟨rfl, rfl, rfl⟩

/-- Events which neither open a connection nor read one leave the table alone. -/
theorem step_sameClients (codec : TextCodec) (server : ClientConnectServer) (event : Event)
    (noOpening : ∀ clientIp clientPort now, event ≠ .connectionOpened clientIp clientPort now)
    (noRead : ∀ connection read now writes, event ≠ .lineRead connection read now writes) :
    SameClients server (step codec server event) := by
  cases event with
  | createTask taskData taskId writes =>
      simp only [step, createTask_leaves, recorded]
      split <;> split <;> exact ⟨rfl, rfl, rfl⟩
  | connectionOpened clientIp clientPort now => exact absurd rfl (noOpening clientIp clientPort now)
  | lineRead connection read now writes => exact absurd rfl (noRead connection read now writes)
  | transportClosing connection => exact ⟨rfl, rfl, rfl⟩
  | taskTaken now writes =>
      simp only [step]
      split
      · rename_i task rest _ _
        obtain ⟨clients, serving, peers⟩ :=
          takeTask_sameClients task now writes { server with taskQueue := rest }
        exact ⟨clients, serving, peers⟩
      · exact ⟨rfl, rfl, rfl⟩
  | drainDone drained =>
      simp only [step]
      split
      · rw [finishDrain_leaves]
        cases drained <;> exact ⟨rfl, rfl, rfl⟩
      · exact ⟨rfl, rfl, rfl⟩

/-- A new connection becomes the latest of its IP. -/
theorem openConnection_registered {server : ClientConnectServer} (registered : Registered server)
    (clientIp : String) (clientPort now : Nat) :
    Registered (openConnection clientIp clientPort now server) := by
  intro wanted
  by_cases same : clientIp = wanted
  · simp [openConnection, latest, same]
  · simpa [openConnection, latest, List.filter_append, same] using registered wanted

theorem openConnection_numbered {server : ClientConnectServer} (numbered : Numbered server)
    (clientIp : String) (clientPort now : Nat) :
    Numbered (openConnection clientIp clientPort now server) := by
  constructor
  · simp only [openConnection, List.map_append, List.map_cons, List.map_nil, List.nodup_append]
    refine ⟨numbered.distinct, List.nodup_singleton _, ?_⟩
    intro first firstMember second secondMember same
    obtain ⟨handler, served, rfl⟩ := List.mem_map.mp firstMember
    have fresh := numbered.opened handler served
    rw [List.mem_singleton.mp secondMember] at same
    omega
  · intro handler served
    simp only [openConnection, List.mem_append, List.mem_singleton, List.length_append,
      List.length_singleton] at served ⊢
    rcases served with earlier | rfl
    · have := numbered.opened handler earlier
      omega
    · exact Nat.lt_succ_self _

/-- A heartbeat changes no writer. -/
theorem refreshed_registered {server : ClientConnectServer} (registered : Registered server)
    {clientIp : String} {info : ClientInfo}
    (found : server.connectedClients.get? clientIp = some info) (now : Nat) :
    Registered (refreshed clientIp info now server) := by
  intro wanted
  rw [← show (server.connectedClients.get? wanted).map ClientInfo.writer =
    (latest (refreshed clientIp info now server) wanted).map Handler.connection from
      registered wanted]
  by_cases same : clientIp = wanted
  · subst wanted
    simp [refreshed, found]
  · simp [refreshed, same]

theorem endHandler_numbered {server : ClientConnectServer} (numbered : Numbered server)
    (handler : Handler) : Numbered (endHandler handler server) := by
  obtain ⟨clients, equation, _⟩ := endHandler_eq handler server
  rw [equation]
  refine ⟨numbered.distinct.sublist (List.filter_sublist.map _), ?_⟩
  intro other served
  exact numbered.opened other (List.mem_filter.mp served).1

/-- A handler leaves a sound table behind exactly when it is the last of its IP. -/
theorem endHandler_registered_iff {server : ClientConnectServer} (registered : Registered server)
    (numbered : Numbered server) {handler : Handler} (served : handler ∈ server.serving) :
    Registered (endHandler handler server) ↔
      ∀ other ∈ server.serving, other.clientIp = handler.clientIp → other = handler := by
  obtain ⟨clients, equation, slots⟩ := endHandler_eq handler server
  rw [equation]
  constructor
  · intro sound other otherServed sameIp
    have slot := sound handler.clientIp
    simp only [latest, slots, if_true, Option.map_none] at slot
    have nobody := List.getLast?_eq_none_iff.mp (Option.map_eq_none_iff.mp slot.symm)
    by_contra different
    have survivor : other.connection ≠ handler.connection := fun same =>
      different (numbered.unique otherServed served same)
    have among := List.eq_nil_iff_forall_not_mem.mp nobody other
    simp [otherServed, survivor, sameIp] at among
  · intro alone wanted
    by_cases same : handler.clientIp = wanted
    · subst wanted
      have nobody : (server.serving.filter fun other =>
          other.connection ≠ handler.connection).filter
            (fun other => other.clientIp = handler.clientIp) = [] := by
        rw [List.eq_nil_iff_forall_not_mem]
        intro other member
        simp only [List.mem_filter, decide_eq_true_eq] at member
        exact member.1.2 (congrArg Handler.connection (alone other member.1.1 member.2))
      simp only [latest, slots, if_true, nobody]
      rfl
    · have others : (server.serving.filter fun other =>
          other.connection ≠ handler.connection).filter (fun other => other.clientIp = wanted) =
            server.serving.filter fun other => other.clientIp = wanted := by
        rw [List.filter_filter]
        apply List.filter_congr
        intro other member
        by_cases ofWanted : other.clientIp = wanted
        · have survivor : other.connection ≠ handler.connection := by
            intro equal
            rw [numbered.unique member served equal] at ofWanted
            exact same ofWanted
          simp [ofWanted, survivor]
        · simp [ofWanted]
      simp only [latest, slots, same, if_false, others]
      exact registered wanted

/-- Every step numbers its connections. -/
theorem step_numbered (codec : TextCodec) (server : ClientConnectServer) (event : Event)
    (numbered : Numbered server) : Numbered (step codec server event) := by
  cases event with
  | connectionOpened clientIp clientPort now =>
      exact openConnection_numbered numbered clientIp clientPort now
  | lineRead connection read now writes =>
      simp only [step]
      split
      · rename_i handler found
        have done := readConnection_done codec handler read now writes server
        generalize readConnection codec handler read now writes server = after at done
        cases done with
        | malformed => exact endHandler_numbered numbered handler
        | unregistered => exact endHandler_numbered numbered handler
        | heartbeat => exact ⟨numbered.distinct, numbered.opened⟩
        | taskResult => exact (stored_sameClients writes now _ _ server).numbered numbered
        | other => exact numbered
      · exact numbered
  | _ => exact (step_sameClients codec server _ (by simp) (by simp)).numbered numbered

theorem openConnection_entriesOwned {server : ClientConnectServer} (owned : EntriesOwned server)
    (clientIp : String) (clientPort now : Nat) :
    EntriesOwned (openConnection clientIp clientPort now server) := by
  intro wanted info found
  simp only [openConnection, Dict.get?_set] at found ⊢
  by_cases same : clientIp = wanted
  · rw [if_pos same] at found
    cases found
    simp [same]
  · rw [if_neg same] at found
    have peer := owned wanted info found
    have bound := (List.getElem?_eq_some_iff.mp peer).1
    rw [List.getElem?_append_left bound]
    exact peer

theorem endHandler_entriesOwned {server : ClientConnectServer} (owned : EntriesOwned server)
    (handler : Handler) : EntriesOwned (endHandler handler server) := by
  obtain ⟨clients, equation, slots⟩ := endHandler_eq handler server
  rw [equation]
  intro clientIp info found
  rw [slots] at found
  split at found
  · simp at found
  · exact owned clientIp info found

theorem refreshed_entriesOwned {server : ClientConnectServer} (owned : EntriesOwned server)
    {clientIp : String} {info : ClientInfo}
    (registered : server.connectedClients.get? clientIp = some info) (now : Nat) :
    EntriesOwned (refreshed clientIp info now server) := by
  intro wanted entry found
  simp only [refreshed, Dict.get?_set] at found ⊢
  split at found
  · next same =>
      cases found
      exact owned wanted info (same ▸ registered)
  · exact owned wanted entry found

/-- Entries keep naming transports of their IP, sound table or not. -/
theorem step_entriesOwned (codec : TextCodec) (server : ClientConnectServer) (event : Event)
    (owned : EntriesOwned server) : EntriesOwned (step codec server event) := by
  cases event with
  | connectionOpened clientIp clientPort now =>
      exact openConnection_entriesOwned owned clientIp clientPort now
  | lineRead connection read now writes =>
      simp only [step]
      split
      · rename_i handler found
        have done := readConnection_done codec handler read now writes server
        generalize readConnection codec handler read now writes server = after at done
        cases done with
        | malformed => exact endHandler_entriesOwned owned handler
        | unregistered => exact endHandler_entriesOwned owned handler
        | heartbeat _ registered => exact refreshed_entriesOwned owned registered now
        | taskResult => exact (stored_sameClients writes now _ _ server).entriesOwned owned
        | other => exact owned
      · exact owned
  | _ => exact (step_sameClients codec server _ (by simp) (by simp)).entriesOwned owned

/-- One step keeps the table right exactly when it ends no handler while another
of its IP is served. -/
theorem step_registered_iff (codec : TextCodec) (server : ClientConnectServer) (event : Event)
    (numbered : Numbered server) (registered : Registered server) :
    Registered (step codec server event) ↔ EndsAlone codec server event := by
  cases event with
  | connectionOpened clientIp clientPort now =>
      exact ⟨fun _ => trivial,
        fun _ => openConnection_registered registered clientIp clientPort now⟩
  | lineRead connection read now writes =>
      simp only [step, EndsAlone]
      cases found : server.serving.find? fun other => other.connection = connection with
      | none => simpa using registered
      | some handler =>
          have served : handler ∈ server.serving := List.mem_of_find?_eq_some found
          have done := readConnection_done codec handler read now writes server
          simp only [Option.some.injEq, forall_eq']
          generalize readConnection codec handler read now writes server = after at done
          cases done with
          | malformed nothing =>
              simp only [nothing, forall_const]
              exact endHandler_registered_iff registered numbered served
          | unregistered delivers missing =>
              obtain ⟨info, present⟩ := registered.entry served
              exact absurd (missing.symm.trans present) (by simp)
          | heartbeat delivers present =>
              simp only [delivers, reduceCtorEq, false_implies, iff_true]
              exact refreshed_registered registered present now
          | taskResult delivers =>
              simp only [delivers, reduceCtorEq, false_implies, iff_true]
              exact (stored_sameClients writes now _ _ server).registered registered
          | other delivers =>
              simp only [delivers, reduceCtorEq, false_implies, iff_true]
              exact registered
  | _ =>
      refine ⟨fun _ => trivial, fun _ => ?_⟩
      exact (step_sameClients codec server _ (by simp) (by simp)).registered registered

theorem init_numbered (table : Table) : Numbered (init table) :=
  ⟨List.nodup_nil, by simp [init]⟩

theorem init_entriesOwned (table : Table) : EntriesOwned (init table) := by
  simp [EntriesOwned, init]

theorem init_registrySound (table : Table) : RegistrySound (init table) :=
  (registrySound_iff _).mpr fun _ => rfl

/-- The runs along which `connected_clients` is sound, whatever connections open,
send and end and whatever tasks are created, are exactly the runs on which every
handler that ends is the last one of its IP. -/
theorem registry_sound_iff (codec : TextCodec) (table : Table) (events : List Event) :
    Along (step codec) RegistrySound (init table) events ↔
      Each (step codec) (EndsAlone codec) (init table) events := by
  refine along_iff_each (step_numbered codec) ?_ (init_numbered table) (init_registrySound table)
    events
  intro server event numbered sound
  rw [registrySound_iff]
  exact step_registered_iff codec server event numbered sound.registered

/-- A client reconnects and only then its old connection is reset: the `finally`
of the old handler removes the entry of the new one. -/
theorem reconnect_unregisters :
    ¬ Along (step heartbeatCodec) RegistrySound (init [])
      [.connectionOpened "10.0.0.1" 40000 1, .connectionOpened "10.0.0.1" 40001 2,
        .lineRead 0 .failed 3 true] := by
  intro along
  have entry := along.last.registered "10.0.0.1"
  revert entry
  decide

end NetworkAdapter.ClientConnectServer
