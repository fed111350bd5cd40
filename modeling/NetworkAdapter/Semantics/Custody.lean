import Mathlib.Logic.Function.Basic
import NetworkAdapter.Semantics.Execution

/-!
# The custody of tasks

A dispatcher hands tasks to parties over links that may lose them. A task is queued, in the
inbox of a party, waiting there, being worked on or done; the dispatcher may put a task back
into its queue without knowing whether it was received. Whatever is lost on the way, a party
does a task at most as often as it was created or put back, and does none that is not its
own. Where none of its tasks is lost, each of them is somewhere.
-/

namespace NetworkAdapter

/-- Who has the tasks. `created` and `returned` record what the dispatcher enqueued. -/
@[ext] structure Custody (Party Task : Type) where
  created : List Task
  returned : List Task
  queued : List Task
  inbox : Party → List Task
  waiting : Party → List Task
  working : Party → Option Task
  done : List (Party × Task)

namespace Custody

variable {Party Task : Type}

inductive Move (Party Task : Type) where
  | idle
  | create (task : Task)
  | putBack (task : Task)
  /-- The first task of the queue goes nowhere. -/
  | withdraw
  /-- The first task of the queue goes to a party. -/
  | send (party : Party)
  /-- An inbox loses its oldest tasks. -/
  | lose (party : Party) (count : Nat)
  | receive (party : Party)
  | start (party : Party)
  | finish (party : Party)

variable [DecidableEq Party]

def step (custody : Custody Party Task) : Move Party Task → Custody Party Task
  | .idle => custody
  | .create task =>
      { custody with created := custody.created ++ [task], queued := custody.queued ++ [task] }
  | .putBack task =>
      { custody with returned := custody.returned ++ [task], queued := custody.queued ++ [task] }
  | .withdraw => { custody with queued := custody.queued.tail }
  | .send party =>
      { custody with
        queued := custody.queued.tail
        inbox := Function.update custody.inbox party
          (custody.inbox party ++ custody.queued.head?.toList) }
  | .lose party count =>
      { custody with
        inbox := Function.update custody.inbox party ((custody.inbox party).drop count) }
  | .receive party =>
      { custody with
        inbox := Function.update custody.inbox party (custody.inbox party).tail
        waiting := Function.update custody.waiting party
          (custody.waiting party ++ (custody.inbox party).head?.toList) }
  | .start party =>
      match custody.working party, custody.waiting party with
      | none, task :: rest =>
          { custody with
            waiting := Function.update custody.waiting party rest
            working := Function.update custody.working party (some task) }
      | _, _ => custody
  | .finish party =>
      match custody.working party with
      | some task =>
          { custody with
            working := Function.update custody.working party none
            done := custody.done ++ [(party, task)] }
      | none => custody

/-- The dispatcher sends a task to the party it is addressed to, and puts back what it has
created. -/
def Proper (address : Task → Option Party) (custody : Custody Party Task) :
    Move Party Task → Prop
  | .putBack task => task ∈ custody.created
  | .send party => ∀ task ∈ custody.queued.head?, address task = some party
  | _ => True

/-- The tasks a party has had and not lost, in the order in which it got them. -/
def has (party : Party) (custody : Custody Party Task) : List Task :=
  (custody.done.filter (·.1 = party)).map Prod.snd ++ (custody.working party).toList ++
    custody.waiting party ++ custody.inbox party

/-- The chosen ones among the tasks addressed to a party. -/
def theirs (address : Task → Option Party) (party : Party) (chosen : Task → Bool) (task : Task) :
    Bool :=
  decide (address task = some party) && chosen task

/-- The tasks addressed to a party. -/
def addressed (address : Task → Option Party) (party : Party) (tasks : List Task) : List Task :=
  tasks.filter fun task => address task = some party

/-- Every task a party has is its own, and none is there more often than it was enqueued. As
long as nothing was put back, the party gets its tasks in the order of their creation. -/
structure Sound (address : Task → Option Party) (custody : Custody Party Task) : Prop where
  queued : ∀ task ∈ custody.queued, task ∈ custody.created
  returned : ∀ task ∈ custody.returned, task ∈ custody.created
  own : ∀ party, ∀ task ∈ custody.has party, task ∈ custody.created ∧ address task = some party
  few : ∀ party chosen,
    custody.queued.countP (theirs address party chosen) + (custody.has party).countP chosen ≤
      (custody.created ++ custody.returned).countP (theirs address party chosen)
  inOrder : custody.returned = [] → ∀ party,
    (custody.has party ++ addressed address party custody.queued).Sublist
      (addressed address party custody.created)

/-- Of the chosen tasks of a party none is lost. -/
def Complete (address : Task → Option Party) (party : Party) (chosen : Task → Bool)
    (custody : Custody Party Task) : Prop :=
  custody.queued.countP (theirs address party chosen) + (custody.has party).countP chosen =
    (custody.created ++ custody.returned).countP (theirs address party chosen)

/-- The move loses no task of a party. -/
def Keeps (address : Task → Option Party) (party : Party) (custody : Custody Party Task) :
    Move Party Task → Prop
  | .withdraw => ∀ task ∈ custody.queued.head?, address task ≠ some party
  | .lose other _ => other ≠ party
  | _ => True

variable {address : Task → Option Party} {custody : Custody Party Task}

/-- A party passes its tasks on in order. -/
theorem has_receive (party other : Party) :
    (custody.step (.receive party)).has other = custody.has other := by
  by_cases same : other = party
  · subst same
    cases received : custody.inbox other <;> simp [has, step, received]
  · simp [has, step, same]

theorem has_start (party other : Party) :
    (custody.step (.start party)).has other = custody.has other := by
  simp only [step]
  split
  · next task rest idle waiting =>
      by_cases same : other = party
      · subst same
        simp [has, idle, waiting]
      · simp [has, same]
  · rfl

theorem has_finish (party other : Party) :
    (custody.step (.finish party)).has other = custody.has other := by
  simp only [step]
  split
  · next task working =>
      by_cases same : other = party
      · subst same
        simp [has, working]
      · simp [has, same, Ne.symm same]
  · rfl

theorem has_send (party other : Party) :
    (custody.step (.send party)).has other =
      custody.has other ++ if other = party then custody.queued.head?.toList else [] := by
  by_cases same : other = party
  · subst same
    simp [has, step]
  · simp [has, step, same]

theorem has_lose (party : Party) (count : Nat) (other : Party) :
    ((custody.step (.lose party count)).has other).Sublist (custody.has other) := by
  by_cases same : other = party
  · subst same
    simp only [has, step, Function.update_self]
    exact (List.drop_sublist _ _).append_left _
  · simp [has, step, same]

/-- The first task of the queue counts where it stands. -/
theorem countP_queue (queue : List Task) (counts : Task → Bool) :
    queue.countP counts = queue.tail.countP counts + queue.head?.toList.countP counts := by
  cases queue with
  | nil => rfl
  | cons task rest => simp [List.countP_cons, List.countP_nil]

/-- A task sent to its party counts there as in the queue. -/
theorem countP_sent {party : Party} (addressed : ∀ task ∈ custody.queued.head?,
    address task = some party) (other : Party) (chosen : Task → Bool) :
    (if other = party then custody.queued.head?.toList else []).countP chosen =
      custody.queued.head?.toList.countP (theirs address other chosen) := by
  cases head : custody.queued.head? with
  | none => simp
  | some task =>
      have whose := addressed task head
      by_cases same : other = party
      · simp [theirs, List.countP_cons, same, whose]
      · simp [theirs, same, whose, Ne.symm same]

/-- The chosen tasks of a party before and after a move: what is enqueued comes in, what is
lost goes out, and the rest is still in the queue or with the party. -/
theorem step_balance {move : Move Party Task} (proper : Proper address custody move)
    (party : Party) (chosen : Task → Bool) :
    let counts := theirs address party chosen
    let after := custody.step move
    ∃ gained lost,
      after.queued.countP counts + (after.has party).countP chosen + lost =
        custody.queued.countP counts + (custody.has party).countP chosen + gained ∧
      (after.created ++ after.returned).countP counts =
        (custody.created ++ custody.returned).countP counts + gained ∧
      (Keeps address party custody move → lost = 0) := by
  intro counts after
  have still (same : after.queued = custody.queued) (recorded : after.created = custody.created)
      (returned : after.returned = custody.returned) (has : after.has party = custody.has party) :
      ∃ gained lost,
        after.queued.countP counts + (after.has party).countP chosen + lost =
          custody.queued.countP counts + (custody.has party).countP chosen + gained ∧
        (after.created ++ after.returned).countP counts =
          (custody.created ++ custody.returned).countP counts + gained ∧
        (Keeps address party custody move → lost = 0) :=
    ⟨0, 0, by rw [same, has], by rw [recorded, returned, Nat.add_zero], fun _ => rfl⟩
  cases move with
  | idle => exact still rfl rfl rfl rfl
  | create task =>
      refine ⟨[task].countP counts, 0, ?_, ?_, fun _ => rfl⟩
      · simp only [after, step, has, List.countP_append]
        omega
      · simp only [after, step, List.countP_append]
        omega
  | putBack task =>
      refine ⟨[task].countP counts, 0, ?_, ?_, fun _ => rfl⟩
      · simp only [after, step, has, List.countP_append]
        omega
      · simp only [after, step, List.countP_append]
        omega
  | withdraw =>
      refine ⟨0, custody.queued.head?.toList.countP counts, ?_, rfl, fun keeps => ?_⟩
      · have queue := countP_queue custody.queued counts
        simp only [after, step, has]
        omega
      · rw [List.countP_eq_zero]
        intro task member
        have other := keeps task (Option.mem_toList.mp member)
        simp [counts, theirs, other]
  | send receiver =>
      refine ⟨0, 0, ?_, rfl, fun _ => rfl⟩
      have queue := countP_queue custody.queued counts
      have sent : (if party = receiver then custody.queued.head?.toList else []).countP chosen =
          custody.queued.head?.toList.countP counts := countP_sent proper party chosen
      simp only [after, has_send, List.countP_append, sent]
      simp only [step]
      omega
  | lose loser count =>
      have sublist : ((custody.step (.lose loser count)).has party).Sublist (custody.has party) :=
        has_lose loser count party
      have fewer := sublist.countP_le (p := chosen)
      refine ⟨0, (custody.has party).countP chosen - (after.has party).countP chosen, ?_, rfl,
        fun other => ?_⟩
      · simp only [after] at fewer ⊢
        simp only [step] at fewer ⊢
        omega
      · have same : after.has party = custody.has party := by
          simp [after, step, has, Ne.symm other]
        rw [same, Nat.sub_self]
  | receive receiver => exact still rfl rfl rfl (has_receive receiver party)
  | start worker =>
      refine still ?_ ?_ ?_ (has_start worker party) <;> simp only [after, step] <;> split <;> rfl
  | finish worker =>
      refine still ?_ ?_ ?_ (has_finish worker party) <;> simp only [after, step] <;> split <;> rfl

/-- Every task a party has after a move it had before, or was sent. -/
theorem mem_has_step {move : Move Party Task} {party : Party} {task : Task}
    (member : task ∈ (custody.step move).has party) :
    task ∈ custody.has party ∨ move = .send party ∧ task ∈ custody.queued.head? := by
  cases move with
  | send receiver =>
      rw [has_send, List.mem_append] at member
      rcases member with earlier | sent
      · exact .inl earlier
      · split at sent
        · next same => exact .inr ⟨by rw [same], Option.mem_toList.mp sent⟩
        · cases sent
  | lose loser count => exact .inl ((has_lose loser count party).subset member)
  | receive receiver => exact .inl (has_receive receiver party ▸ member)
  | start worker => exact .inl (has_start worker party ▸ member)
  | finish worker => exact .inl (has_finish worker party ▸ member)
  | _ => exact .inl member

/-- What has been created stays so. -/
theorem created_step (move : Move Party Task) {task : Task} (member : task ∈ custody.created) :
    task ∈ (custody.step move).created := by
  cases move with
  | create other => exact List.mem_append_left _ member
  | start worker =>
      simp only [step]
      split <;> exact member
  | finish worker =>
      simp only [step]
      split <;> exact member
  | _ => exact member

theorem queued_step {move : Move Party Task} (proper : Proper address custody move)
    (queued : ∀ task ∈ custody.queued, task ∈ custody.created) :
    ∀ task ∈ (custody.step move).queued, task ∈ (custody.step move).created := by
  intro task member
  cases move with
  | create other =>
      rcases List.mem_append.mp member with earlier | new
      · exact List.mem_append_left _ (queued task earlier)
      · exact List.mem_append_right _ new
  | putBack other =>
      rcases List.mem_append.mp member with earlier | new
      · exact queued task earlier
      · exact List.mem_singleton.mp new ▸ proper
  | withdraw => exact queued task (List.mem_of_mem_tail member)
  | send party => exact queued task (List.mem_of_mem_tail member)
  | start worker =>
      refine created_step _ (queued task ?_)
      simp only [step] at member
      split at member <;> exact member
  | finish worker =>
      refine created_step _ (queued task ?_)
      simp only [step] at member
      split at member <;> exact member
  | _ => exact queued task member

theorem returned_step {move : Move Party Task} (proper : Proper address custody move)
    (returned : ∀ task ∈ custody.returned, task ∈ custody.created) :
    ∀ task ∈ (custody.step move).returned, task ∈ (custody.step move).created := by
  intro task member
  cases move with
  | putBack other =>
      rcases List.mem_append.mp member with earlier | new
      · exact returned task earlier
      · exact List.mem_singleton.mp new ▸ proper
  | start worker =>
      refine created_step _ (returned task ?_)
      simp only [step] at member
      split at member <;> exact member
  | finish worker =>
      refine created_step _ (returned task ?_)
      simp only [step] at member
      split at member <;> exact member
  | _ => exact created_step _ (returned task member)

/-- The first task of the queue stands before the others. -/
theorem addressed_queue (party : Party) (queue : List Task) :
    addressed address party queue =
      addressed address party queue.head?.toList ++ addressed address party queue.tail := by
  cases queue with
  | nil => rfl
  | cons task rest => simp [addressed, List.filter_cons]; split <;> rfl

/-- A task sent to its party leaves its place in the line to it. -/
theorem addressed_sent {receiver : Party} (proper : ∀ task ∈ custody.queued.head?,
    address task = some receiver) (party : Party) :
    (if party = receiver then custody.queued.head?.toList else []) =
      addressed address party custody.queued.head?.toList := by
  cases head : custody.queued.head? with
  | none => simp [addressed]
  | some task =>
      have whose := proper task head
      by_cases same : party = receiver
      · simp [addressed, same, whose]
      · simp [addressed, same, whose, Ne.symm same]

theorem inOrder_step {move : Move Party Task} (proper : Proper address custody move)
    (inOrder : custody.returned = [] → ∀ party,
      (custody.has party ++ addressed address party custody.queued).Sublist
        (addressed address party custody.created)) :
    (custody.step move).returned = [] → ∀ party,
      ((custody.step move).has party ++ addressed address party (custody.step move).queued).Sublist
        (addressed address party (custody.step move).created) := by
  intro none party
  cases move with
  | create task =>
      have before := inOrder none party
      simp only [step, addressed, List.filter_append] at before ⊢
      rw [← List.append_assoc]
      exact before.append_right _
  | putBack task => simp [step] at none
  | withdraw =>
      refine List.Sublist.trans ?_ (inOrder none party)
      rw [addressed_queue party custody.queued]
      exact (List.sublist_append_right _ _).append_left _
  | send receiver =>
      have before := inOrder none party
      rw [addressed_queue party custody.queued, ← addressed_sent proper party,
        ← List.append_assoc, ← has_send] at before
      exact before
  | lose loser count =>
      exact ((has_lose loser count party).append_right _).trans (inOrder none party)
  | receive receiver =>
      rw [has_receive]
      exact inOrder none party
  | start worker =>
      rw [has_start]
      simp only [step] at none ⊢
      split at none <;> exact inOrder none party
  | finish worker =>
      rw [has_finish]
      simp only [step] at none ⊢
      split at none <;> exact inOrder none party
  | idle => exact inOrder none party

/-- Every proper move keeps custody sound. -/
theorem Sound.step {move : Move Party Task} (sound : Sound address custody)
    (proper : Proper address custody move) : Sound address (custody.step move) where
  queued := queued_step proper sound.queued
  returned := returned_step proper sound.returned
  own party task member := by
    rcases mem_has_step member with earlier | ⟨rfl, sent⟩
    · have ⟨created, whose⟩ := sound.own party task earlier
      exact ⟨created_step _ created, whose⟩
    · exact ⟨created_step _ (sound.queued task (List.mem_of_mem_head? sent)), proper task sent⟩
  few party chosen := by
    obtain ⟨gained, lost, balance, recorded, _⟩ := step_balance proper party chosen
    have few := sound.few party chosen
    omega
  inOrder := inOrder_step proper sound.inOrder

/-- Of tasks that have not been created none is lost. -/
theorem Sound.complete (sound : Sound address custody) {party : Party} {chosen : Task → Bool}
    (fresh : ∀ task ∈ custody.created, theirs address party chosen task = false) :
    Complete address party chosen custody := by
  have none : (custody.created ++ custody.returned).countP (theirs address party chosen) = 0 := by
    rw [List.countP_eq_zero]
    intro task member
    rcases List.mem_append.mp member with created | returned
    · simp [fresh task created]
    · simp [fresh task (sound.returned task returned)]
  have few := sound.few party chosen
  unfold Complete
  omega

/-- Once a party has done what it has and nothing is queued, it has done all of its tasks. -/
theorem Complete.done {party : Party} {chosen : Task → Bool}
    (complete : Complete address party chosen custody)
    (unqueued : addressed address party custody.queued = [])
    (inbox : custody.inbox party = []) (waiting : custody.waiting party = [])
    (idle : custody.working party = none) :
    ((custody.done.filter (·.1 = party)).map Prod.snd).countP chosen =
      (custody.created ++ custody.returned).countP (theirs address party chosen) := by
  have nobody : custody.queued.countP (theirs address party chosen) = 0 := by
    rw [List.countP_eq_zero]
    intro task member counts
    have whose : address task = some party := by
      simp only [theirs, Bool.and_eq_true, decide_eq_true_eq] at counts
      exact counts.1
    have among : task ∈ addressed address party custody.queued :=
      List.mem_filter.mpr ⟨member, by simp [whose]⟩
    simp [unqueued] at among
  have all : custody.has party = (custody.done.filter (·.1 = party)).map Prod.snd := by
    simp [has, inbox, waiting, idle]
  unfold Complete at complete
  rw [all, nobody, Nat.zero_add] at complete
  exact complete

/-- A proper move that loses none of the tasks of a party keeps them complete. -/
theorem Complete.step {move : Move Party Task} {party : Party} {chosen : Task → Bool}
    (complete : Complete address party chosen custody) (proper : Proper address custody move)
    (keeps : Keeps address party custody move) :
    Complete address party chosen (custody.step move) := by
  obtain ⟨gained, lost, balance, recorded, nothing⟩ := step_balance proper party chosen
  have none := nothing keeps
  unfold Complete at complete ⊢
  omega

end Custody
end NetworkAdapter
