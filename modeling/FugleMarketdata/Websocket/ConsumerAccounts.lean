/-
**What the consumers of the stream are told.** The runs of `StreamConsumers.lean`, item by item.

* `Served` — how the answers agree with the queue in every order;
* `consumers_account` — the items queued are those told, in order and to one consumer each, and those still
  queued; a call that blocks is told one thing; and the end is told only when no sender is left and
  everything was told, and from then on nothing else is.
-/

import FugleMarketdata.Websocket.StreamConsumers

namespace FugleMarketdata

open StepMachines StepMachine

/-- The items the consumers were told. -/
def itemsTold (answers : List (Caller × Answer)) : List StreamItem :=
  answers.filterMap fun told => told.2.item?

theorem itemsTold_concat (answers : List (Caller × Answer)) (caller : Caller) (answer : Answer) :
    itemsTold (answers ++ [(caller, answer)]) = itemsTold answers ++ answer.item?.toList := by
  rw [itemsTold, List.filterMap_append, itemsTold]
  cases found : answer.item? <;> simp [found]

/-- What one consumer was told. -/
def toldTo (answers : List (Caller × Answer)) (caller : Caller) : List Answer :=
  (answers.filter fun told => told.1 = caller).map Prod.snd

theorem toldTo_self (answers : List (Caller × Answer)) (caller : Caller) (answer : Answer) :
    toldTo (answers ++ [(caller, answer)]) caller = toldTo answers caller ++ [answer] := by
  simp [toldTo]

theorem toldTo_other (answers : List (Caller × Answer)) {caller other : Caller} (answer : Answer)
    (apart : caller ≠ other) :
    toldTo (answers ++ [(caller, answer)]) other = toldTo answers other := by
  simp [toldTo, apart]

/-- In every order: what was queued is what was told, in order, and what is left; a call that blocks was
told what it returns; and the end was told last, of a stream that is over. -/
structure Served (run : ConsumerRun) : Prop where
  given : run.accepted = itemsTold run.answers ++ run.discarded ++ run.client.stream.items
  kept : run.client.stream.receiverAlive = true → run.discarded = []
  gone : run.client.stream.receiverAlive = false → run.client.stream.items = []
  last : run.answers.Pairwise fun earlier later => earlier.2.isEnded = true → later.2.isEnded = true
  ended : ∀ told ∈ run.answers, told.2.isEnded = true → run.senders = 0 ∧ run.client.stream.items = []
  threads : ∀ position thread, run.threads[position]? = some thread →
    toldTo run.answers (.thread position) = thread.answer?.toList
  fresh : ∀ told ∈ run.answers, ∀ position, told.1 = .thread position → position < run.threads.length
  calls : ∀ thread ∈ run.threads, thread.answer? = none → run.client.stream.receiverAlive = true

namespace Served

variable {sh : Shared} {run next : ConsumerRun}

theorem start : Served {} where
  given := rfl
  kept := fun _ => rfl
  gone := fun _ => rfl
  last := List.Pairwise.nil
  ended := fun _ member => by cases member
  threads := fun _ _ there => by cases there
  fresh := fun _ member => by cases member
  calls := fun _ member => by cases member

/-- The parties changed, but neither the queue nor what was told. -/
theorem parties (served : Served run) (client : run.client = next.client)
    (senders : next.senders = run.senders ∨ run.senders ≠ 0) (accepted : next.accepted = run.accepted)
    (answers : next.answers = run.answers) (discarded : next.discarded = run.discarded)
    (threads : ∀ position (thread : Thread), next.threads[position]? = some thread →
      toldTo run.answers (.thread position) = thread.answer?.toList)
    (length : run.threads.length ≤ next.threads.length)
    (calls : ∀ thread ∈ next.threads, thread.answer? = none →
      run.client.stream.receiverAlive = true) : Served next := by
  refine ⟨?_, ?_, ?_, ?_, ?_, ?_, ?_, client ▸ calls⟩
  · rw [accepted, answers, discarded, ← client]
    exact served.given
  · rw [discarded, ← client]
    exact served.kept
  · rw [← client]
    exact served.gone
  · rw [answers]
    exact served.last
  · intro told member over_
    rw [answers] at member
    obtain ⟨none, items⟩ := served.ended told member over_
    rw [← client]
    rcases senders with same | some_
    · exact ⟨same.trans none, items⟩
    · exact absurd none some_
  · intro position thread there
    rw [answers]
    exact threads position thread there
  · intro told member position is_
    rw [answers] at member
    exact Nat.lt_of_lt_of_le (served.fresh told member position is_) length

/-- Every call that blocks has returned what it had. -/
theorem moves (served : Served run) (move : Thread → Thread)
    (kept : ∀ thread, (move thread).answer? = thread.answer?) :
    (∀ (position : Nat) (thread : Thread), (run.threads.map move)[position]? = some thread →
      toldTo run.answers (.thread position) = thread.answer?.toList) ∧
      ∀ thread ∈ run.threads.map move, thread.answer? = none →
        run.client.stream.receiverAlive = true := by
  constructor
  · intro position thread there
    rw [List.getElem?_map, Option.map_eq_some_iff] at there
    obtain ⟨before, found, rfl⟩ := there
    rw [kept]
    exact served.threads position before found
  · intro thread member none
    obtain ⟨before, was, rfl⟩ := List.mem_map.mp member
    exact served.calls before was (kept before ▸ none)

/-- An operation of a sender that is there. -/
theorem operation (served : Served run) {call : QueueCall}
    (stepped : run.operationStep sh call = some next) : Served next := by
  unfold ConsumerRun.operationStep at stepped
  split at stepped
  · cases stepped
  rename_i going
  obtain ⟨new, items, alive, -, silent⟩ := call.apply_queues sh run.client
  have after : Served { run with
      client := call.apply sh run.client
      accepted := run.accepted ++
        queuedBy run.client.stream (call.apply sh run.client).stream } := by
    refine ⟨?_, ?_, ?_, served.last, ?_, served.threads, served.fresh, fun thread member none => ?_⟩
    · show run.accepted ++ queuedBy run.client.stream (call.apply sh run.client).stream =
        itemsTold run.answers ++ run.discarded ++ (call.apply sh run.client).stream.items
      rw [queuedBy_eq items, served.given, items, List.append_assoc]
    · intro live
      exact served.kept (alive ▸ live)
    · intro dead
      have dead : run.client.stream.receiverAlive = false := alive ▸ dead
      show (call.apply sh run.client).stream.items = []
      rw [items, silent dead, served.gone dead]
      rfl
    · intro told member over_
      exact absurd (served.ended told member over_).1 going
    · exact alive.trans (served.calls thread member none)
  simp only at stepped
  split at stepped
  · obtain rfl := Option.some.inj stepped
    exact ⟨after.given, after.kept, after.gone, after.last, after.ended, after.threads, after.fresh,
      after.calls⟩
  · obtain rfl := Option.some.inj stepped
    exact after

/-- A consumer is told something. `threads` is what becomes of the calls that block. -/
theorem tell (served : Served run) {caller : Caller} {answer : Answer} {stream : State}
    (told : State.Told run.senders run.client.stream answer stream)
    (alive : run.client.stream.receiverAlive = true) {threads : List Thread}
    (each : ∀ (position : Nat) (thread : Thread), threads[position]? = some thread →
      caller = .thread position ∧ toldTo run.answers (.thread position) = [] ∧
          thread.answer? = some answer ∨
        caller ≠ .thread position ∧
          toldTo run.answers (.thread position) = thread.answer?.toList)
    (length : run.threads.length ≤ threads.length)
    (inside : ∀ position, caller = .thread position → position < threads.length)
    (tasks : Nat → TaskAt) :
    Served { run.tell caller answer stream with threads, tasks } := by
  have live : stream.receiverAlive = true := by
    cases told with
    | item item after items same => exact same.trans alive
    | ended items gone => exact alive
    | nothing answer items going none open_ => exact alive
  refine ⟨?_, ?_, fun dead => ?_, ?_, ?_, ?_, ?_, fun _ _ _ => live⟩
  · show run.accepted = itemsTold (run.answers ++ [(caller, answer)]) ++ run.discarded ++ stream.items
    rw [itemsTold_concat, served.given, served.kept alive, List.append_nil, List.append_nil,
      List.append_assoc]
    congr 1
    cases told with
    | item item after items same => exact items
    | ended items gone => rfl
    | nothing answer items going none open_ =>
      rw [none]
      rfl
  · exact fun _ => served.kept alive
  · have dead : stream.receiverAlive = false := dead
    rw [live] at dead
    cases dead
  · refine List.pairwise_append.mpr ⟨served.last, List.pairwise_singleton _ _, ?_⟩
    intro earlier member later is_ over_
    rw [List.mem_singleton.mp is_]
    obtain ⟨none, empty⟩ := served.ended earlier member over_
    cases told with
    | item item after items same =>
      rw [items] at empty
      cases empty
    | ended items gone => rfl
    | nothing answer items going none' open_ => exact absurd none going
  · intro entry member over_
    rcases List.mem_append.mp member with old | new
    · obtain ⟨none, empty⟩ := served.ended entry old over_
      refine ⟨none, ?_⟩
      show stream.items = []
      cases told with
      | item item after items same =>
        rw [items] at empty
        cases empty
      | ended items gone => exact items
      | nothing answer items going none' open_ => exact items
    · rw [List.mem_singleton.mp new] at over_
      cases told with
      | item item after items same => cases over_
      | ended items gone => exact ⟨gone, items⟩
      | nothing answer items going none open_ =>
        rw [open_] at over_
        cases over_
  · intro position thread there
    show toldTo (run.answers ++ [(caller, answer)]) (.thread position) = _
    rcases each position thread there with ⟨rfl, none, returned⟩ | ⟨apart, same⟩
    · rw [toldTo_self, none, returned]
      rfl
    · rw [toldTo_other _ _ apart, same]
  · intro entry member position is_
    rcases List.mem_append.mp member with old | new
    · exact Nat.lt_of_lt_of_le (served.fresh entry old position is_) length
    · rw [List.mem_singleton.mp new] at is_
      exact inside position is_

/-- A call that blocks and has not returned was told nothing. -/
theorem untold (served : Served run) {position : Nat} {thread : Thread}
    (there : run.threads[position]? = some thread) (none : thread.answer? = none) :
    toldTo run.answers (.thread position) = [] := by
  rw [served.threads position thread there, none]
  rfl

/-- Nor was a call that has not begun. -/
theorem untold_next (served : Served run) :
    toldTo run.answers (.thread run.threads.length) = [] := by
  refine List.map_eq_nil_iff.mpr (List.filter_eq_nil_iff.mpr fun told member is_ => ?_)
  exact absurd (served.fresh told member _ (of_decide_eq_true is_)) (Nat.lt_irrefl _)

theorem lookStep (served : Served run) {position : Nat} {thread : Thread} {expired : Bool}
    (there : run.threads[position]? = some thread)
    (stepped : run.lookStep position thread expired = some next) : Served next := by
  have inside := (List.getElem?_eq_some_iff.mp there).1
  unfold ConsumerRun.lookStep at stepped
  split at stepped
  · rename_i locking
    have none : thread.answer? = none := by
      unfold Thread.answer?
      rw [locking]
    have alive := served.calls thread (List.mem_of_getElem? there) none
    simp only at stepped
    rcases State.look_cases run.senders thread.timed expired run.client.stream with
      ⟨answer, stream, found, told⟩ | ⟨found, items, going⟩
    · rw [found] at stepped
      obtain rfl := Option.some.inj stepped
      refine served.tell told alive ?_ ?_ ?_ run.tasks
      · intro place other found
        rcases getElem?_set_cases found with ⟨rfl, rfl⟩ | ⟨apart, old⟩
        · exact Or.inl ⟨rfl, served.untold there none, rfl⟩
        · exact Or.inr ⟨fun equal => apart (Caller.thread.inj equal).symm,
            served.threads place other old⟩
      · exact Nat.le_of_eq (List.length_set ..).symm
      · intro place is_
        obtain rfl := Caller.thread.inj is_
        rw [List.length_set]
        exact inside
    · rw [found] at stepped
      obtain rfl := Option.some.inj stepped
      refine served.parties rfl (Or.inl rfl) rfl rfl rfl (fun place other found => ?_)
        (Nat.le_of_eq (List.length_set ..).symm) (fun _ _ _ => alive)
      rcases getElem?_set_cases found with ⟨rfl, rfl⟩ | ⟨-, old⟩
      · exact served.untold there none
      · exact served.threads place other old
  · cases stepped

theorem pollStep (served : Served run) (alive : run.client.stream.receiverAlive = true) (task : Nat) :
    Served (run.pollStep task) := by
  unfold ConsumerRun.pollStep State.pollRecv
  rcases State.next_cases run.senders run.client.stream with ⟨answer, stream, found, told⟩ |
    ⟨found, items, going⟩
  · rw [found]
    exact served.tell told alive
      (fun position thread there => Or.inr ⟨(fun equal => by cases equal),
        served.threads position thread there⟩) (Nat.le_refl _) (fun _ equal => by cases equal) _
  · rw [found]
    exact served.parties rfl (Or.inl rfl) rfl rfl rfl served.threads (Nat.le_refl _) served.calls

theorem tryRecv (served : Served run) (stepped : run.step sh .tryRecv = some next) : Served next := by
  simp only [ConsumerRun.step] at stepped
  split at stepped
  · rename_i alive
    obtain rfl := Option.some.inj stepped
    have told := State.tryRecv_told run.senders run.client.stream
    refine served.tell told alive ?_ ?_ ?_ run.tasks
    · intro place other found
      rcases getElem?_concat_cases found with old | ⟨rfl, rfl⟩
      · have below := (List.getElem?_eq_some_iff.mp old).1
        exact Or.inr ⟨fun equal => absurd (Caller.thread.inj equal) (Nat.ne_of_gt below),
          served.threads place other old⟩
      · exact Or.inl ⟨rfl, served.untold_next, rfl⟩
    · rw [List.length_append]
      exact Nat.le_add_right _ _
    · intro place is_
      obtain rfl := Caller.thread.inj is_
      rw [List.length_append]
      exact Nat.lt_succ_self _
  · cases stepped

theorem dropSender (served : Served run) (stepped : run.dropSenderStep = some next) : Served next := by
  unfold ConsumerRun.dropSenderStep at stepped
  split at stepped
  · cases stepped
  rename_i some_
  simp only at stepped
  split at stepped <;> obtain rfl := Option.some.inj stepped <;>
    exact served.parties rfl (Or.inr some_) rfl rfl rfl served.threads (Nat.le_refl _) served.calls

theorem dropReceiver (served : Served run) (stepped : run.step sh .dropReceiver = some next) :
    Served next := by
  simp only [ConsumerRun.step] at stepped
  split at stepped
  · rename_i returned
    obtain rfl := Option.some.inj stepped
    refine ⟨?_, (fun alive => by cases alive), fun _ => rfl, served.last, ?_, served.threads,
      served.fresh, fun thread member none => ?_⟩
    · show run.accepted = itemsTold run.answers ++ (run.discarded ++ run.client.stream.items) ++ []
      rw [served.given, List.append_nil, List.append_assoc]
    · exact fun told member over_ => ⟨(served.ended told member over_).1, rfl⟩
    · have answered := List.all_eq_true.mp returned thread member
      rw [none] at answered
      cases answered
  · cases stepped

/-- **Every step keeps it.** -/
theorem step (served : Served run) (label : ConsumerStep) (stepped : run.step sh label = some next) :
    Served next := by
  cases label with
  | operation call => exact served.operation stepped
  | clone =>
    simp only [ConsumerRun.step] at stepped
    split at stepped
    · cases stepped
    · rename_i some_
      obtain rfl := Option.some.inj stepped
      exact served.parties rfl (Or.inr some_) rfl rfl rfl served.threads (Nat.le_refl _) served.calls
  | dropSender => exact served.dropSender stepped
  | notifyAll position =>
    simp only [ConsumerRun.step] at stepped
    split at stepped
    · split at stepped
      · obtain rfl := Option.some.inj stepped
        have kept (thread : Thread) : thread.unpark.answer? = thread.answer? := by
          unfold Thread.unpark Thread.answer?
          cases pc : thread.pc <;> simp [pc]
        obtain ⟨threads, calls⟩ := served.moves Thread.unpark kept
        exact served.parties rfl (Or.inl rfl) rfl rfl rfl threads
          (Nat.le_of_eq (List.length_map ..).symm) calls
      · cases stepped
    · cases stepped
  | wake position =>
    simp only [ConsumerRun.step] at stepped
    split at stepped
    · split at stepped
      · obtain rfl := Option.some.inj stepped
        exact served.parties rfl (Or.inl rfl) rfl rfl rfl served.threads (Nat.le_refl _) served.calls
      · cases stepped
    · cases stepped
  | call timed =>
    simp only [ConsumerRun.step] at stepped
    split at stepped
    · rename_i alive
      obtain rfl := Option.some.inj stepped
      refine served.parties rfl (Or.inl rfl) rfl rfl rfl (fun place other found => ?_) ?_
        (fun _ _ _ => alive)
      · rcases getElem?_concat_cases found with old | ⟨rfl, rfl⟩
        · exact served.threads place other old
        · exact served.untold_next
      · rw [List.length_append]
        exact Nat.le_add_right _ _
    · cases stepped
  | tryRecv => exact served.tryRecv stepped
  | look position expired =>
    simp only [ConsumerRun.step] at stepped
    split at stepped
    · rename_i thread there
      exact served.lookStep there stepped
    · cases stepped
  | unpark position =>
    simp only [ConsumerRun.step] at stepped
    split at stepped
    · rename_i thread there
      obtain rfl := Option.some.inj stepped
      have kept : thread.unpark.answer? = thread.answer? := by
        unfold Thread.unpark Thread.answer?
        cases pc : thread.pc <;> simp [pc]
      refine served.parties rfl (Or.inl rfl) rfl rfl rfl (fun place other found => ?_)
        (Nat.le_of_eq (List.length_set ..).symm) (fun other member none => ?_)
      · rcases getElem?_set_cases found with ⟨rfl, rfl⟩ | ⟨-, old⟩
        · rw [kept]
          exact served.threads _ thread there
        · exact served.threads place other old
      · rcases List.mem_or_eq_of_mem_set member with old | rfl
        · exact served.calls other old none
        · exact served.calls thread (List.mem_of_getElem? there) (kept ▸ none)
    · cases stepped
  | poll task =>
    simp only [ConsumerRun.step] at stepped
    split at stepped
    · rename_i alive
      obtain rfl := Option.some.inj stepped
      exact served.pollStep alive task
    · cases stepped
  | giveUp task =>
    obtain rfl := Option.some.inj stepped
    exact served.parties rfl (Or.inl rfl) rfl rfl rfl served.threads (Nat.le_refl _) served.calls
  | dropReceiver => exact served.dropReceiver stepped

theorem reached (reached : (consumerRuns sh).Reachable run) : Served run := by
  have base : ∀ run, (consumerRuns sh).start run → Served run := by
    rintro run rfl
    exact start
  exact reached.invariant base fun _ label _ served stepped => served.step label stepped

end Served

/-! ### Main results -/

/-- **Each item goes to one consumer, and the end comes last.** In every state of every run, with any
operations, senders, blocking calls and tasks: what was queued is what the consumers were told, in order,
then what was dropped with the receiver and what is still queued; a call that blocks was told just what it
returns; once the end was told nothing else is; and where it was, no sender is left and everything queued
was told or dropped with the receiver. -/
theorem consumers_account (sh : Shared) {run : ConsumerRun} (reached : (consumerRuns sh).Reachable run) :
    run.accepted = itemsTold run.answers ++ run.discarded ++ run.client.stream.items ∧
      (run.client.stream.receiverAlive = true → run.discarded = []) ∧
      (∀ position thread, run.threads[position]? = some thread →
        toldTo run.answers (.thread position) = thread.answer?.toList) ∧
      (run.answers.Pairwise fun earlier later =>
        earlier.2.isEnded = true → later.2.isEnded = true) ∧
      ∀ told ∈ run.answers, told.2.isEnded = true →
        run.senders = 0 ∧ run.accepted = itemsTold run.answers ++ run.discarded := by
  have served := Served.reached reached
  refine ⟨served.given, served.kept, served.threads, served.last, fun told member over_ => ?_⟩
  obtain ⟨none, items⟩ := served.ended told member over_
  refine ⟨none, ?_⟩
  rw [served.given, items, List.append_nil]

/-- An event, two calls that take, the client dropped, and the end told to a third. -/
theorem consumers_account_end : ∃ run, (consumerRuns oneMessageStream).run {}
      [.operation (.emit .connecting), .operation (.emit .connected), .poll 0, .tryRecv, .dropSender,
        .call false, .look 1 false] = some run ∧
    itemsTold run.answers = [.event .connecting, .event .connected] ∧
    run.senders = 0 ∧ run.accepted = itemsTold run.answers ++ run.discarded := by
  have ran : ∃ run, (consumerRuns oneMessageStream).run {}
        [.operation (.emit .connecting), .operation (.emit .connected), .poll 0, .tryRecv, .dropSender,
          .call false, .look 1 false] = some run ∧
      itemsTold run.answers = [.event .connecting, .event .connected] ∧
      (.thread 1, .ended) ∈ run.answers :=
    ⟨_, rfl, rfl, List.mem_cons_of_mem _ (List.mem_cons_of_mem _ List.mem_cons_self)⟩
  obtain ⟨run, ran, items, member⟩ := ran
  have reached := StepMachine.reachable_of_run _ (StepMachine.Reachable.init _ rfl) ran
  exact ⟨run, ran, items, (consumers_account oneMessageStream reached).2.2.2.2 _ member rfl⟩

end FugleMarketdata
