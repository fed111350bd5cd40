import NetworkAdapter.Server.Registry
import NetworkAdapter.Std.Occurrences

/-!
# The order in which a client receives its tasks

A failed drain puts its task back at the end of the queue although the line was
already handed to the transport, so a line may be written again and after later
tasks. `DeliversInOrder` is what remains: the first writes of a client's tasks
follow the order of their creation, and a line is written again only after one
of its drains failed.
-/

namespace NetworkAdapter.ClientConnectServer

open Execution Occurrences

/-- The tasks whose lines were written to any transport, in order. -/
def written (server : ClientConnectServer) : List Nat :=
  server.wire.map fun line => line.task.number

/-- The tasks whose lines were written to the transports of a client, in order. -/
def writtenTo (server : ClientConnectServer) (clientIp : String) : List Nat :=
  (server.wire.filter fun line => server.peers[line.connection]? = some clientIp).map
    fun line => line.task.number

/-- The tasks created for a client, in order. -/
def createdFor (server : ClientConnectServer) (clientIp : String) : List Nat :=
  (server.enqueued.filter fun task => task.clientIp? = some clientIp).map QueuedTask.number

/-- What a client can rely on. -/
structure DeliversInOrder (server : ClientConnectServer) (clientIp : String) : Prop where
  distinct : (createdFor server clientIp).Nodup
  firstWrites : (writtenTo server clientIp).eraseDups.Sublist (createdFor server clientIp)
  rewrites : ∀ number,
    (writtenTo server clientIp).count number ≤ server.failedDrains.count number + 1
  unfailed : (∀ number ∈ writtenTo server clientIp, number ∉ server.failedDrains) →
    (writtenTo server clientIp).Sublist (createdFor server clientIp)

/-- The order of the queue. A queued task was written before or is younger than
everything written before, and the tasks not written before stand in order. -/
structure Ordered (server : ClientConnectServer) : Prop where
  numbers : server.enqueued.map QueuedTask.number = List.range server.enqueued.length
  queued : ∀ task ∈ server.taskQueue, task ∈ server.enqueued
  lines : ∀ line ∈ server.wire, line.task ∈ server.enqueued ∧
    ∃ clientIp, line.task.clientIp? = some clientIp ∧ server.peers[line.connection]? = some clientIp
  held : ∀ task, server.distributor = .draining task →
    task ∈ server.enqueued ∧ task.number ∈ server.written
  queueOrder : server.taskQueue.Pairwise fun earlier later =>
    later.number ∈ server.written ∨ earlier.number < later.number
  behind : ∀ task ∈ server.taskQueue, task.number ∈ server.written ∨
    ∀ number ∈ server.written, number < task.number
  firsts : ∀ clientIp, (writtenTo server clientIp).eraseDups.Pairwise (· < ·)
  counts : ∀ number, server.written.count number +
    (server.taskQueue.map QueuedTask.number).count number ≤ server.failedDrains.count number + 1

/-- The server once the line of its first task is written and being drained. -/
def sending (writer : Nat) (task : QueuedTask) (rest : List QueuedTask)
    (server : ClientConnectServer) : ClientConnectServer :=
  { handedOver writer task { server with taskQueue := rest } with distributor := .draining task }

theorem written_sending (writer : Nat) (task : QueuedTask) (rest : List QueuedTask)
    (server : ClientConnectServer) :
    written (sending writer task rest server) = server.written ++ [task.number] := by
  simp [written, sending, handedOver]

theorem writtenTo_sending {server : ClientConnectServer} {writer : Nat} {clientIp : String}
    (peer : server.peers[writer]? = some clientIp) (task : QueuedTask) (rest : List QueuedTask)
    (wanted : String) :
    writtenTo (sending writer task rest server) wanted =
      if clientIp = wanted then writtenTo server wanted ++ [task.number]
      else writtenTo server wanted := by
  simp only [writtenTo, sending, handedOver, List.filter_append, List.map_append]
  split <;> rename_i same <;> simp [peer, same] <;> rfl

namespace Ordered

variable {server : ClientConnectServer}

theorem below (ordered : Ordered server) {task : QueuedTask} (member : task ∈ server.enqueued) :
    task.number < server.enqueued.length := by
  have among : task.number ∈ server.enqueued.map QueuedTask.number := List.mem_map_of_mem member
  rw [ordered.numbers] at among
  exact List.mem_range.mp among

theorem written_below (ordered : Ordered server) {number : Nat}
    (member : number ∈ server.written) : number < server.enqueued.length := by
  obtain ⟨line, written, rfl⟩ := List.mem_map.mp member
  exact ordered.below (ordered.lines line written).1

/-- The number of a task identifies it. -/
theorem unique (ordered : Ordered server) {first second : QueuedTask}
    (firstMember : first ∈ server.enqueued) (secondMember : second ∈ server.enqueued)
    (same : first.number = second.number) : first = second := by
  refine List.inj_on_of_nodup_map ?_ firstMember secondMember same
  rw [ordered.numbers]
  exact List.nodup_range

/-- A task written before was written to a transport of its client. -/
theorem writtenTo_of_written (ordered : Ordered server) {task : QueuedTask}
    (member : task ∈ server.enqueued) (before : task.number ∈ server.written)
    {clientIp : String} (addressed : task.clientIp? = some clientIp) :
    task.number ∈ writtenTo server clientIp := by
  obtain ⟨line, written, sameNumber⟩ := List.mem_map.mp before
  obtain ⟨known, lineClient, lineAddressed, peer⟩ := ordered.lines line written
  obtain rfl := ordered.unique known member sameNumber
  cases addressed.symm.trans lineAddressed
  exact List.mem_map.mpr ⟨line, List.mem_filter.mpr ⟨written, by simpa using peer⟩, rfl⟩

theorem writtenTo_subset (clientIp : String) :
    writtenTo server clientIp ⊆ server.written :=
  List.map_subset _ (List.filter_subset_self _)

theorem deliversInOrder (ordered : Ordered server) (clientIp : String) :
    DeliversInOrder server clientIp := by
  have increasing : (createdFor server clientIp).Pairwise (· < ·) := by
    refine List.Pairwise.sublist (List.filter_sublist.map QueuedTask.number) ?_
    rw [ordered.numbers]
    exact List.pairwise_lt_range
  have subset : (writtenTo server clientIp).eraseDups ⊆ createdFor server clientIp := by
    intro number member
    obtain ⟨line, written, rfl⟩ := List.mem_map.mp (List.mem_eraseDups.mp member)
    obtain ⟨written, peer⟩ := List.mem_filter.mp written
    obtain ⟨known, lineClient, addressed, linePeer⟩ := ordered.lines line written
    have sameClient : some lineClient = some clientIp := linePeer.symm.trans (by simpa using peer)
    exact List.mem_map.mpr
      ⟨line.task, List.mem_filter.mpr ⟨known, by simp [addressed, sameClient]⟩, rfl⟩
  have firstWrites := sublist_of_increasing (ordered.firsts clientIp) increasing subset
  have rewrites : ∀ number, (writtenTo server clientIp).count number ≤
      server.failedDrains.count number + 1 := by
    intro number
    have counted := ordered.counts number
    have fewer : (writtenTo server clientIp).count number ≤ server.written.count number :=
      (List.filter_sublist.map _).count_le number
    omega
  refine ⟨increasing.imp Nat.ne_of_lt, firstWrites, rewrites, ?_⟩
  intro unfailed
  have distinct : (writtenTo server clientIp).Nodup := by
    rw [List.nodup_iff_count_le_one]
    intro number
    by_cases member : number ∈ writtenTo server clientIp
    · have noFailure := List.count_eq_zero.mpr (unfailed number member)
      have bound := rewrites number
      omega
    · simp [List.count_eq_zero.mpr member]
  rwa [eraseDups_of_nodup distinct] at firstWrites

theorem of_sameTasks {after : ClientConnectServer} (ordered : Ordered server)
    (same : SameTasks server after) : Ordered after := by
  obtain ⟨taskQueue, distributor, wire, enqueued, failedDrains, later, extended⟩ := same
  have peer : ∀ line ∈ server.wire, after.peers[line.connection]? =
      server.peers[line.connection]? := by
    intro line member
    obtain ⟨_, clientIp, _, known⟩ := ordered.lines line member
    have bound := (List.getElem?_eq_some_iff.mp known).1
    rw [← extended, List.getElem?_append_left bound]
  have sameWritten : after.written = server.written := by rw [written, written, wire]
  have sameWrittenTo : ∀ clientIp, writtenTo after clientIp = writtenTo server clientIp := by
    intro clientIp
    rw [writtenTo, writtenTo, wire]
    congr 1
    apply List.filter_congr
    intro line member
    rw [peer line member]
  constructor
  · rw [enqueued]
    exact ordered.numbers
  · rw [taskQueue, enqueued]
    exact ordered.queued
  · rw [wire, enqueued]
    intro line member
    rw [peer line member]
    exact ordered.lines line member
  · rw [distributor, enqueued, sameWritten]
    exact ordered.held
  · rw [taskQueue, sameWritten]
    exact ordered.queueOrder
  · rw [taskQueue, sameWritten]
    exact ordered.behind
  · intro clientIp
    rw [sameWrittenTo]
    exact ordered.firsts clientIp
  · rw [taskQueue, failedDrains, sameWritten]
    exact ordered.counts

/-- Taking the first task off the queue without writing it. -/
theorem dequeue (ordered : Ordered server) {task : QueuedTask} {rest : List QueuedTask}
    (queued : server.taskQueue = task :: rest) {distributor : Distributor}
    (free : ∀ other, distributor ≠ .draining other) :
    Ordered { server with taskQueue := rest, distributor := distributor } := by
  obtain ⟨numbers, members, lines, held, queueOrder, behind, firsts, counts⟩ := ordered
  rw [queued] at members queueOrder behind counts
  refine ⟨numbers, fun other later => members other (List.mem_cons_of_mem _ later), lines,
    fun other drained => absurd drained (free other), queueOrder.of_cons,
    fun other later => behind other (List.mem_cons_of_mem _ later), firsts, ?_⟩
  intro number
  have counted := counts number
  simp only [List.map_cons, List.count_cons] at counted
  exact Nat.le_trans (Nat.add_le_add_left (Nat.le_add_right _ _) _) counted

/-- Writing the line of the first task to a transport of its client. -/
theorem send (ordered : Ordered server) {task : QueuedTask} {rest : List QueuedTask}
    (queued : server.taskQueue = task :: rest) {clientIp : String} {writer : Nat}
    (addressed : task.clientIp? = some clientIp)
    (peer : server.peers[writer]? = some clientIp) :
    Ordered (sending writer task rest server) := by
  have isMember : task ∈ server.enqueued := ordered.queued task (by simp [queued])
  have behindTask := ordered.behind task (by simp [queued])
  have writtenAgain := fun before =>
    ordered.writtenTo_of_written isMember before addressed
  obtain ⟨numbers, members, lines, held, queueOrder, behind, firsts, counts⟩ := ordered
  rw [queued] at members queueOrder behind counts
  obtain ⟨afterTask, queueOrder⟩ := List.pairwise_cons.mp queueOrder
  constructor
  · exact numbers
  · exact fun other later => members other (List.mem_cons_of_mem _ later)
  · intro line member
    rcases List.mem_append.mp member with earlier | last
    · exact lines line earlier
    · rw [List.mem_singleton.mp last]
      exact ⟨isMember, clientIp, addressed, peer⟩
  · intro other drained
    cases drained
    refine ⟨isMember, ?_⟩
    rw [written_sending]
    exact List.mem_append_right _ (List.mem_singleton_self _)
  · rw [written_sending]
    exact queueOrder.imp fun order => order.imp_left (List.mem_append_left _)
  · rw [written_sending]
    intro other later
    rcases afterTask other later with before | younger
    · exact .inl (List.mem_append_left _ before)
    · rcases behind other (List.mem_cons_of_mem _ later) with before | above
      · exact .inl (List.mem_append_left _ before)
      · refine .inr fun number member => ?_
        rcases List.mem_append.mp member with earlier | last
        · exact above number earlier
        · rwa [List.mem_singleton.mp last]
  · intro wanted
    rw [writtenTo_sending peer]
    split
    · next same =>
        subst wanted
        refine increasing_concat (firsts clientIp) ?_
        intro absent number member
        rcases behindTask with before | above
        · exact absurd (writtenAgain before) absent
        · exact above number (writtenTo_subset clientIp member)
    · exact firsts wanted
  · rw [written_sending]
    intro number
    have counted := counts number
    simp only [List.map_cons, List.count_cons, List.count_append, List.count_nil] at counted ⊢
    simp only [sending, handedOver]
    omega

/-- Putting the task of a failed drain back. -/
theorem putBack (ordered : Ordered server) {task : QueuedTask}
    (draining : server.distributor = .draining task) :
    Ordered { server with
      taskQueue := server.taskQueue ++ [task]
      failedDrains := server.failedDrains ++ [task.number]
      distributor := .waiting } := by
  obtain ⟨isMember, before⟩ := ordered.held task draining
  obtain ⟨numbers, members, lines, held, queueOrder, behind, firsts, counts⟩ := ordered
  refine ⟨numbers, ?_, lines, by simp, ?_, ?_, firsts, ?_⟩
  · intro other member
    rcases List.mem_append.mp member with earlier | last
    · exact members other earlier
    · rwa [List.mem_singleton.mp last]
  · refine List.pairwise_append.mpr ⟨queueOrder, List.pairwise_singleton _ _, ?_⟩
    intro earlier _ last isLast
    rw [List.mem_singleton.mp isLast]
    exact .inl before
  · intro other member
    rcases List.mem_append.mp member with earlier | last
    · exact behind other earlier
    · rw [List.mem_singleton.mp last]
      exact .inl before
  · intro number
    have counted := counts number
    simp only [List.map_append, List.map_cons, List.map_nil, List.count_append, written]
      at counted ⊢
    omega

theorem answered (ordered : Ordered server) (drained : Except PyError Unit) {task : QueuedTask}
    (draining : server.distributor = .draining task) :
    Ordered { (finishDrain task drained).leaves server with distributor := .waiting } := by
  rw [finishDrain_leaves]
  cases drained with
  | error error => exact ordered.putBack draining
  | ok value =>
      obtain ⟨numbers, members, lines, held, queueOrder, behind, firsts, counts⟩ := ordered
      exact ⟨numbers, members, lines, by simp, queueOrder, behind, firsts, counts⟩

/-- Enqueueing a task that takes the next number. -/
theorem create (ordered : Ordered server) {task : QueuedTask}
    (next : task.number = server.enqueued.length) :
    Ordered { server with
      taskQueue := server.taskQueue ++ [task]
      enqueued := server.enqueued ++ [task] } := by
  have below : ∀ other ∈ server.enqueued, other.number < server.enqueued.length :=
    fun _ => ordered.below
  have writtenBelow : ∀ number ∈ server.written, number < server.enqueued.length :=
    fun _ => ordered.written_below
  obtain ⟨numbers, members, lines, held, queueOrder, behind, firsts, counts⟩ := ordered
  refine ⟨?_, ?_, ?_, ?_, ?_, ?_, firsts, ?_⟩
  · simp [numbers, next, List.range_succ]
  · intro other member
    exact List.mem_append.mpr ((List.mem_append.mp member).imp_left (members other))
  · intro line member
    obtain ⟨known, shape⟩ := lines line member
    exact ⟨List.mem_append_left _ known, shape⟩
  · intro other draining
    obtain ⟨known, before⟩ := held other draining
    exact ⟨List.mem_append_left _ known, before⟩
  · refine List.pairwise_append.mpr ⟨queueOrder, List.pairwise_singleton _ _, ?_⟩
    intro earlier member last isLast
    rw [List.mem_singleton.mp isLast, next]
    exact .inr (below earlier (members earlier member))
  · intro other member
    rcases List.mem_append.mp member with earlier | last
    · exact behind other earlier
    · rw [List.mem_singleton.mp last, next]
      exact .inr writtenBelow
  · intro number
    have counted := counts number
    simp only [List.map_append, List.map_cons, List.map_nil, List.count_append, written]
      at counted ⊢
    by_cases same : number = task.number
    · have unwritten : server.written.count number = 0 := by
        refine List.count_eq_zero.mpr fun member => ?_
        have := writtenBelow number member
        omega
      have unqueued : (server.taskQueue.map QueuedTask.number).count number = 0 := by
        refine List.count_eq_zero.mpr fun member => ?_
        obtain ⟨other, queued, rfl⟩ := List.mem_map.mp member
        have := below other (members other queued)
        omega
      simp only [written] at unwritten
      rw [unwritten, unqueued, same]
      simp
    · have absent : [task.number].count number = 0 := by simp [Ne.symm same]
      omega

end Ordered

theorem takeTask_ordered {server : ClientConnectServer} {task : QueuedTask}
    {rest : List QueuedTask} (ordered : Ordered server) (owned : EntriesOwned server)
    (queued : server.taskQueue = task :: rest) (now : Nat) (writes : Bool) :
    Ordered (takeTask task now writes { server with taskQueue := rest }) := by
  have taken := takeTask_taken task now writes { server with taskQueue := rest }
  generalize takeTask task now writes { server with taskQueue := rest } = after at taken
  cases taken with
  | switch => exact ordered.dequeue queued (by simp)
  | unusable => exact ordered.dequeue queued (by simp)
  | skipped => exact ordered.dequeue queued (by simp)
  | @sent clientIp info _ addressed found _ =>
      exact ordered.send queued addressed (owned clientIp info found)
  | absent =>
      have idle : ∀ other, Distributor.waiting ≠ .draining other := by simp
      obtain ⟨taskQueue, _, wire, enqueued, failedDrains, peers⟩ :=
        stored_sameTasks writes now _ _ { server with taskQueue := rest }
      exact (ordered.dequeue queued idle).of_sameTasks
        ⟨taskQueue, rfl, wire, enqueued, failedDrains, peers⟩

theorem step_ordered (codec : TextCodec) (server : ClientConnectServer) (event : Event)
    (ordered : Ordered server) (owned : EntriesOwned server) :
    Ordered (step codec server event) := by
  cases event with
  | createTask taskData taskId writes =>
      have same : SameTasks server (recorded writes (createdData taskData taskId) server) := by
        cases writes <;> exact ⟨rfl, rfl, rfl, rfl, rfl, List.prefix_rfl⟩
      have written := ordered.of_sameTasks same
      simp only [step, createTask_leaves]
      split
      · cases writes <;> exact written.create rfl
      · exact written
  | taskTaken now writes =>
      simp only [step]
      split
      · next task rest _ queued => exact takeTask_ordered ordered owned queued now writes
      · exact ordered
  | drainDone drained =>
      simp only [step]
      split
      · next task draining => exact ordered.answered drained draining
      · exact ordered
  | _ => exact ordered.of_sameTasks (step_sameTasks codec server _ (by simp) (by simp) (by simp))

theorem init_ordered (table : Table) : Ordered (init table) := by
  refine ⟨rfl, ?_, ?_, ?_, ?_, ?_, ?_, ?_⟩ <;> simp [init, written, writtenTo]

/-- On every run, whatever drains fail, each client gets the first lines of its
tasks in the order of their creation, and a further line of a task only after a
failed drain of it. -/
theorem deliveries_in_order (codec : TextCodec) (table : Table) (events : List Event) :
    Along (step codec) (fun server => ∀ clientIp, DeliversInOrder server clientIp)
      (init table) events := by
  have sound : Along (step codec) (fun server => Ordered server ∧ EntriesOwned server)
      (init table) events :=
    along_invariant (fun server => Ordered server ∧ EntriesOwned server)
      (fun server event ⟨ordered, owned⟩ =>
        ⟨step_ordered codec server event ordered owned,
          step_entriesOwned codec server event owned⟩)
      ⟨init_ordered table, init_entriesOwned table⟩ events
  exact sound.mono fun _ sound clientIp => sound.1.deliversInOrder clientIp

/-- The drain of a written line times out while a later task is queued: the client
gets the later task in between and the first one twice. -/
theorem timed_out_drain_repeats :
    ¬ Along (step heartbeatCodec) (fun server => ∀ clientIp,
        (writtenTo server clientIp).Sublist (createdFor server clientIp)) (init [])
      [.connectionOpened "10.0.0.1" 40000 1,
        .createTask [("player", .str "attacker"), ("client_ip", .str "10.0.0.1")] "00000a" true,
        .createTask [("player", .str "attacker"), ("client_ip", .str "10.0.0.1")] "00000b" true,
        .taskTaken 2 true, .drainDone (.error .timeoutError), .taskTaken 3 true,
        .drainDone (.ok ()), .taskTaken 4 true] := by
  intro along
  have ordered := along.last "10.0.0.1"
  revert ordered
  decide

end NetworkAdapter.ClientConnectServer
