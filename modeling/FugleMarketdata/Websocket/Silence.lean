/-
**How silence ends.** The calls of `Liveness` by a read site, over whole runs.

* `Liveness.trace` — a run: the creation, each frame, and each poll with what it returned;
* `Silence` — the polls since a frame;
* `driven` — a run in which polls are called at the instants they are due;
* `liveness_exact` — no death ahead of the detection window, one probe in a silence, and a death at exactly
  the end of the window where polls are called as the read loops call them;
* `stale_wait_dies_late` — it is not enough to poll when the last wait ends.
-/

import FugleMarketdata.Websocket.Liveness

namespace FugleMarketdata

/-- A call of the read site, with its clock reading. -/
inductive LivenessCall where
  | onInbound (now : Nat)
  | poll (now : Nat)
  deriving DecidableEq, Repr

/-- What a run shows: a frame, as which the creation counts, or a poll and what it returned. -/
inductive LivenessEntry where
  | inbound (now : Nat)
  | polled (now : Nat) (action : LivenessAction)
  deriving DecidableEq, Repr

namespace LivenessEntry

def now : LivenessEntry → Nat
  | inbound now => now
  | polled now _ => now

def isPoll : LivenessEntry → Bool
  | inbound _ => false
  | polled _ _ => true

def isProbe : LivenessEntry → Bool
  | polled _ .sendProbe => true
  | _ => false

/-- The instant at which what a poll returned has poll called again. -/
def due : LivenessEntry → Option Nat
  | inbound _ => none
  | polled _ (.wait deadline) => some deadline
  | polled now .sendProbe => some now
  | polled _ (.dead _) => none

/-- The same, and poll is called at the creation and at every frame. -/
def dueAlways : LivenessEntry → Option Nat
  | inbound now => some now
  | entry => entry.due

end LivenessEntry

/-- The silence that an enabled configuration allows. -/
def HealthCheckConfig.detection (config : HealthCheckConfig) : Nat :=
  if config.probeEnabled then config.idleProbeAfterOrDefault + config.probeTimeoutOrDefault
  else config.heartbeatTimeout

theorem HealthCheckConfig.window_plan (config : HealthCheckConfig) :
    config.plan.window = config.detection := by
  unfold plan detection
  split <;> rfl

namespace Liveness

/-- What the calls show, one entry a call. -/
def follow (liveness : Liveness) : List LivenessCall → List LivenessEntry
  | [] => []
  | .onInbound now :: calls => .inbound now :: (liveness.onInbound now).follow calls
  | .poll now :: calls => .polled now (liveness.poll now).1 :: (liveness.poll now).2.follow calls

/-- A run from the creation. -/
def trace (liveness : Liveness) (calls : List LivenessCall) : List LivenessEntry :=
  .inbound liveness.lastInbound :: liveness.follow calls

end Liveness

/-- The polls since a frame, with what comes after them. -/
def Silence (trace : List LivenessEntry) (last : Nat) (silence rest : List LivenessEntry) : Prop :=
  (∃ before, trace = before ++ .inbound last :: (silence ++ rest)) ∧
    ∀ entry ∈ silence, entry.isPoll = true

/-- There is a poll at an instant, ahead of anything later. -/
def pollsAt (instant : Nat) : List LivenessEntry → Bool
  | [] => true
  | entry :: rest =>
    if instant < entry.now then false
    else (entry.isPoll && entry.now == instant) || pollsAt instant rest

/-- Poll is called at each instant at which it is due. -/
def driven (due : LivenessEntry → Option Nat) : List LivenessEntry → Bool
  | [] => true
  | entry :: rest => (due entry).all (pollsAt · rest) && driven due rest

/-- Where the clock passes the end of the detection window in a silence, the connection is dead at exactly
that end, and not ahead of it. -/
def DiesOnTime (due : LivenessEntry → Option Nat) (window : Nat) (trace : List LivenessEntry) : Prop :=
  driven due trace = true → ∀ last silence later after, Silence trace last silence (later :: after) →
    last + window < later.now →
      .polled (last + window) (.dead window) ∈ silence ∧
        ∀ now elapsed, .polled now (.dead elapsed) ∈ silence → last + window ≤ now

theorem driven_append_right {due : LivenessEntry → Option Nat} {before rest : List LivenessEntry}
    (calls : driven due (before ++ rest) = true) : driven due rest = true := by
  induction before with
  | nil => exact calls
  | cons entry before ih =>
    simp only [List.cons_append, driven, Bool.and_eq_true] at calls
    exact ih calls.2

theorem driven_cons {due : LivenessEntry → Option Nat} {entry : LivenessEntry}
    {rest : List LivenessEntry} (calls : driven due (entry :: rest) = true) :
    (∀ instant, due entry = some instant → pollsAt instant rest = true) ∧ driven due rest = true := by
  simp only [driven, Bool.and_eq_true] at calls
  refine ⟨fun instant at_ => ?_, calls.2⟩
  simpa [at_] using calls.1

namespace Liveness

/-- The liveness of a connection that has just had a frame. -/
def fresh (plan : Plan) (now : Nat) : Liveness := { plan, lastInbound := now }

variable {liveness : Liveness}

theorem eq_fresh {config : HealthCheckConfig} {start : Nat} (enabled : new config start = some liveness) :
    liveness = fresh config.plan start := by
  unfold new at enabled
  split at enabled
  · exact (Option.some.inj enabled).symm
  · cases enabled

theorem plan_poll (liveness : Liveness) (now : Nat) : (liveness.poll now).2.plan = liveness.plan := by
  rcases liveness.poll_cases now with ⟨polled, -⟩ | ⟨polled, -⟩ | ⟨polled, -⟩ <;> rw [polled]

theorem lastInbound_poll (liveness : Liveness) (now : Nat) :
    (liveness.poll now).2.lastInbound = liveness.lastInbound := by
  rcases liveness.poll_cases now with ⟨polled, -⟩ | ⟨polled, -⟩ | ⟨polled, -⟩ <;> rw [polled]

/-- **A frame starts the silence over**: what follows is a run from a creation at that frame. -/
theorem follow_onInbound (liveness : Liveness) (before : List LivenessCall) (now : Nat)
    (after : List LivenessCall) :
    liveness.follow (before ++ .onInbound now :: after) =
      liveness.follow before ++ (fresh liveness.plan now).trace after := by
  induction before generalizing liveness with
  | nil => rfl
  | cons call before ih =>
    cases call with
    | onInbound earlier => exact congrArg (LivenessEntry.inbound earlier :: ·) (ih _)
    | poll earlier =>
      have later := ih (liveness.poll earlier).2
      rw [plan_poll] at later
      exact congrArg (LivenessEntry.polled earlier (liveness.poll earlier).1 :: ·) later

/-- What follows a frame in a run. -/
theorem follow_after_inbound {calls : List LivenessCall} {before rest : List LivenessEntry} {last : Nat}
    (split : liveness.follow calls = before ++ .inbound last :: rest) :
    ∃ after, rest = (fresh liveness.plan last).follow after := by
  induction before generalizing liveness calls with
  | nil =>
    match calls, split with
    | .onInbound now :: after, split =>
      obtain ⟨same, tail⟩ := List.cons.inj split
      cases same
      exact ⟨after, tail.symm⟩
    | .poll now :: after, split => cases (List.cons.inj split).1
  | cons entry before ih =>
    match calls, split with
    | .onInbound now :: after, split =>
      have tail : (liveness.onInbound now).follow after = before ++ .inbound last :: rest :=
        (List.cons.inj split).2
      obtain ⟨later, same⟩ := ih tail
      exact ⟨later, same⟩
    | .poll now :: after, split =>
      have tail : (liveness.poll now).2.follow after = before ++ .inbound last :: rest :=
        (List.cons.inj split).2
      obtain ⟨later, same⟩ := ih tail
      exact ⟨later, by rw [same, plan_poll]⟩

/-- Entries that are polls are those of calls of poll. -/
theorem follow_polls {calls : List LivenessCall} {silence rest : List LivenessEntry}
    (split : liveness.follow calls = silence ++ rest) (polls : ∀ entry ∈ silence, entry.isPoll = true) :
    ∃ times : List Nat, silence = liveness.follow (times.map .poll) := by
  induction silence generalizing liveness calls with
  | nil => exact ⟨[], rfl⟩
  | cons entry silence ih =>
    match calls, split with
    | .onInbound now :: after, split =>
      obtain ⟨same, -⟩ := List.cons.inj split
      have poll := polls entry List.mem_cons_self
      rw [← same] at poll
      cases poll
    | .poll now :: after, split =>
      obtain ⟨same, tail⟩ := List.cons.inj split
      obtain ⟨times, listed⟩ := ih tail fun other within => polls other (List.mem_cons_of_mem entry within)
      exact ⟨now :: times, by rw [listed, ← same]; rfl⟩

/-! ### Polls in a row -/

theorem plan_of_mayProbe (may : liveness.mayProbe = true) :
    liveness.probeSentAt = none ∧ ∃ idle timeout, liveness.plan = .probe idle timeout := by
  obtain ⟨plan, last, sent⟩ := liveness
  cases plan with
  | passive timeout => cases may
  | probe idle timeout =>
    cases sent with
    | none => exact ⟨rfl, idle, timeout, rfl⟩
    | some sent => cases may

/-- Where a probe may still be sent, a poll declares no death. -/
theorem mayProbe_of_dead {now elapsed : Nat} (dead : (liveness.poll now).1 = .dead elapsed) :
    liveness.mayProbe = false ∧ elapsed = liveness.plan.window ∧ liveness.deadline ≤ now ∧
      (liveness.poll now).2 = liveness := by
  by_cases may : liveness.mayProbe = true
  · obtain ⟨unsent, idle, timeout, plan⟩ := plan_of_mayProbe may
    simp only [poll, plan, unsent] at dead
    split at dead <;> cases dead
  · have settled : liveness.mayProbe = false := Bool.eq_false_iff.mpr may
    rcases liveness.poll_cases now with ⟨polled, -⟩ | ⟨-, -, probes⟩ | ⟨polled, late⟩
    · rw [polled] at dead
      cases dead
    · exact absurd probes may
    · rw [polled] at dead ⊢
      cases dead
      exact ⟨settled, rfl, late, rfl⟩

/-- Once the probe is out, the deadline is no earlier than the end of the detection window. -/
def Patient (liveness : Liveness) : Prop :=
  liveness.mayProbe = false → liveness.lastInbound + liveness.plan.window ≤ liveness.deadline

theorem patient_fresh (plan : Plan) (now : Nat) : (fresh plan now).Patient := by
  intro settled
  cases plan with
  | passive timeout => exact Nat.le_refl _
  | probe idle timeout => cases settled

/-- What a poll that sends the probe leaves. -/
theorem probe_sent {now : Nat} (probes : liveness.mayProbe = true) (due : liveness.deadline ≤ now) :
    ∃ idle timeout, liveness.plan = .probe idle timeout ∧ liveness.deadline = liveness.lastInbound + idle ∧
      ({ liveness with probeSentAt := some now } : Liveness).deadline = now + timeout ∧
      ({ liveness with probeSentAt := some now } : Liveness).mayProbe = false ∧
      liveness.lastInbound + idle ≤ now := by
  obtain ⟨unsent, idle, timeout, plan⟩ := plan_of_mayProbe probes
  obtain ⟨_, last, sent⟩ := liveness
  cases plan
  cases unsent
  exact ⟨idle, timeout, rfl, rfl, rfl, rfl, due⟩

theorem patient_poll (patient : liveness.Patient) (now : Nat) : (liveness.poll now).2.Patient := by
  rcases liveness.poll_cases now with ⟨polled, -⟩ | ⟨polled, due, probes⟩ | ⟨polled, -⟩ <;> rw [polled]
  · exact patient
  · obtain ⟨idle, timeout, plan, -, deadline, -, waited⟩ := probe_sent probes due
    intro _
    rw [deadline]
    simp only [plan, Plan.window]
    omega
  · exact patient

/-- A death in a row of polls: the window is over. -/
theorem dead_of_follow (patient : liveness.Patient) {times : List Nat} {now elapsed : Nat}
    (dead : .polled now (.dead elapsed) ∈ liveness.follow (times.map .poll)) :
    elapsed = liveness.plan.window ∧ liveness.lastInbound + liveness.plan.window ≤ now := by
  induction times generalizing liveness with
  | nil => cases dead
  | cons time times ih =>
    rcases List.mem_cons.mp dead with here | later
    · obtain ⟨rfl, returned⟩ := LivenessEntry.polled.inj here
      obtain ⟨settled, same, late, -⟩ := mayProbe_of_dead returned.symm
      exact ⟨same, Nat.le_trans (patient settled) late⟩
    · have tail := ih (patient_poll patient time) later
      rwa [plan_poll, lastInbound_poll] at tail

/-- How many probes may still be sent in the present silence. -/
theorem countP_isProbe_follow (liveness : Liveness) (times : List Nat) :
    (liveness.follow (times.map .poll)).countP LivenessEntry.isProbe ≤ liveness.mayProbe.toNat := by
  induction times generalizing liveness with
  | nil => exact Nat.zero_le _
  | cons time times ih =>
    have rest := ih (liveness.poll time).2
    simp only [List.map_cons, follow, List.countP_cons]
    rcases liveness.poll_cases time with ⟨polled, -⟩ | ⟨polled, due, probes⟩ | ⟨polled, -⟩ <;>
      rw [polled] at rest ⊢
    · simpa [LivenessEntry.isProbe] using rest
    · obtain ⟨-, -, -, -, -, settled, -⟩ := probe_sent probes due
      rw [settled] at rest
      rw [probes]
      simpa [LivenessEntry.isProbe] using rest
    · simpa [LivenessEntry.isProbe] using rest

/-- A death in a row of polls of a client that probes: the probe went unanswered. -/
theorem probed_of_dead {idle timeout : Nat} (plan : liveness.plan = .probe idle timeout)
    {times : List Nat} {earlier later : List LivenessEntry} {now elapsed : Nat}
    (split : liveness.follow (times.map .poll) = earlier ++ .polled now (.dead elapsed) :: later) :
    ∃ sent, (.polled sent .sendProbe ∈ earlier ∨ liveness.probeSentAt = some sent) ∧
      sent + timeout ≤ now := by
  induction times generalizing liveness earlier with
  | nil => cases List.append_ne_nil_of_right_ne_nil earlier (List.cons_ne_nil _ later) split.symm
  | cons time times ih =>
    cases earlier with
    | nil =>
      obtain ⟨here, -⟩ := List.cons.inj split
      obtain ⟨rfl, returned⟩ := LivenessEntry.polled.inj here
      obtain ⟨settled, -, late, -⟩ := mayProbe_of_dead returned
      obtain ⟨_, last, sent⟩ := liveness
      cases plan
      cases sent with
      | none => cases settled
      | some sent => exact ⟨sent, .inr rfl, late⟩
    | cons entry earlier =>
      obtain ⟨here, tail⟩ := List.cons.inj split
      obtain ⟨sent, before, unanswered⟩ := ih ((plan_poll liveness time).trans plan) tail
      refine ⟨sent, ?_, unanswered⟩
      rcases before with listed | remembered
      · exact .inl (List.mem_cons_of_mem entry listed)
      · rcases liveness.poll_cases time with ⟨polled, -⟩ | ⟨polled, -⟩ | ⟨polled, -⟩ <;>
          rw [polled] at remembered here
        · exact .inr remembered
        · cases remembered
          exact .inl (here ▸ List.mem_cons_self)
        · exact .inr remembered

/-- Once the probe is out, the deadline is the end of the detection window. -/
def Exact (liveness : Liveness) : Prop :=
  liveness.mayProbe = false → liveness.deadline = liveness.lastInbound + liveness.plan.window

theorem exact_fresh (plan : Plan) (now : Nat) : (fresh plan now).Exact := by
  intro settled
  cases plan with
  | passive timeout => rfl
  | probe idle timeout => cases settled

theorem deadline_le_of_exact (precise : liveness.Exact) :
    liveness.deadline ≤ liveness.lastInbound + liveness.plan.window := by
  by_cases may : liveness.mayProbe = true
  · obtain ⟨idle, timeout, plan, deadline, -⟩ := probe_sent may (Nat.le_refl _)
    rw [deadline, plan]
    exact Nat.add_le_add_left (Nat.le_add_right idle timeout) _
  · exact Nat.le_of_eq (precise (Bool.eq_false_iff.mpr may))

/-! ### Polls that are called when due -/

open LivenessEntry

/-- A poll that is called no later than due: no death ahead of the end of the window, and the next poll is
due by the deadline it leaves. -/
theorem poll_of_driven (precise : liveness.Exact) {instant time : Nat} {rest : List LivenessEntry}
    (ahead : instant ≤ liveness.deadline)
    (next : pollsAt instant (.polled time (liveness.poll time).1 :: rest) = true)
    (calls : driven dueAlways (.polled time (liveness.poll time).1 :: rest) = true) :
    time ≤ liveness.lastInbound + liveness.plan.window ∧
      ((liveness.poll time).1 = .dead liveness.plan.window ∧
          time = liveness.lastInbound + liveness.plan.window ∧ (liveness.poll time).2 = liveness ∧
          liveness.mayProbe = false ∨
        (∀ elapsed, (liveness.poll time).1 ≠ .dead elapsed) ∧ (liveness.poll time).2.Exact ∧
          ∃ instant ≤ (liveness.poll time).2.deadline, pollsAt instant rest = true) := by
  have prompt : time ≤ instant := by
    by_contra late
    have passed : instant < time := by omega
    simp [pollsAt, LivenessEntry.now, passed] at next
  have within := deadline_le_of_exact precise
  have called := (driven_cons calls).1
  simp only [dueAlways, due] at called
  refine ⟨by omega, ?_⟩
  rcases liveness.poll_cases time with ⟨polled, early⟩ | ⟨polled, late, probes⟩ | ⟨polled, late⟩ <;>
    rw [polled] at called ⊢
  · exact .inr ⟨nofun, precise, liveness.deadline, Nat.le_refl _, called _ rfl⟩
  · obtain ⟨idle, timeout, plan, waited, deadline, settled, -⟩ := probe_sent probes late
    refine .inr ⟨nofun, fun _ => ?_, time, ?_, called _ rfl⟩
    · rw [deadline]
      simp only [plan, Plan.window]
      omega
    · rw [deadline]
      exact Nat.le_add_right time timeout
  · have returned : (liveness.poll time).1 = .dead liveness.plan.window := by rw [polled]
    obtain ⟨settled, -⟩ := mayProbe_of_dead returned
    have ended := precise settled
    exact .inl ⟨rfl, by omega, rfl, settled⟩

/-- **A row of polls that are called when due**: where the clock passes the end of the window, one of
them declares the connection dead at that end. -/
theorem dies_of_driven (precise : liveness.Exact) {times : List Nat} {instant : Nat}
    (ahead : instant ≤ liveness.deadline) {later : LivenessEntry} {after : List LivenessEntry}
    (next : pollsAt instant (liveness.follow (times.map .poll) ++ later :: after) = true)
    (calls : driven dueAlways (liveness.follow (times.map .poll) ++ later :: after) = true)
    (passed : liveness.lastInbound + liveness.plan.window < later.now) :
    .polled (liveness.lastInbound + liveness.plan.window) (.dead liveness.plan.window) ∈
      liveness.follow (times.map .poll) := by
  induction times generalizing liveness instant with
  | nil =>
    have within := deadline_le_of_exact precise
    have late : instant < later.now := by omega
    simp [follow, pollsAt, late] at next
  | cons time times ih =>
    obtain ⟨-, ⟨dead, ended, -⟩ | ⟨-, precise', due', ahead', next'⟩⟩ :=
      poll_of_driven precise ahead next calls
    · simp only [List.map_cons, follow, dead, ← ended]
      exact List.mem_cons_self
    · have last := lastInbound_poll liveness time
      have plan := plan_poll liveness time
      have rest := ih precise' ahead' next' (driven_cons calls).2 (by rwa [last, plan])
      rw [last, plan] at rest
      exact List.mem_cons_of_mem _ rest

/-- Once the probe is out, a poll past the deadline declares the connection dead. -/
theorem dead_of_settled (settled : liveness.mayProbe = false) {times : List Nat} {now : Nat}
    {action : LivenessAction} (polled : .polled now action ∈ liveness.follow (times.map .poll))
    (late : liveness.deadline ≤ now) : action = .dead liveness.plan.window := by
  induction times with
  | nil => cases polled
  | cons time times ih =>
    have same : (liveness.poll time).2 = liveness := by
      rcases liveness.poll_cases time with ⟨polls, -⟩ | ⟨-, -, probes⟩ | ⟨polls, -⟩
      · rw [polls]
      · rw [settled] at probes
        cases probes
      · rw [polls]
    rcases List.mem_cons.mp polled with here | later
    · obtain ⟨rfl, rfl⟩ := LivenessEntry.polled.inj here
      rcases liveness.poll_cases now with ⟨-, early⟩ | ⟨-, -, probes⟩ | ⟨polls, -⟩
      · omega
      · rw [settled] at probes
        cases probes
      · rw [polls]
    · rw [same] at later
      exact ih later

/-- In a row of polls that are called when due, a poll at the end of the window or past it declares the
connection dead, unless it sends the probe at that very end. -/
theorem dead_of_driven (precise : liveness.Exact) {times : List Nat} {instant : Nat}
    (ahead : instant ≤ liveness.deadline) {rest : List LivenessEntry}
    (next : pollsAt instant (liveness.follow (times.map .poll) ++ rest) = true)
    (calls : driven dueAlways (liveness.follow (times.map .poll) ++ rest) = true) {now : Nat}
    {action : LivenessAction} (polled : .polled now action ∈ liveness.follow (times.map .poll))
    (late : liveness.lastInbound + liveness.plan.window ≤ now) :
    action = .dead liveness.plan.window ∨
      action = .sendProbe ∧ now = liveness.lastInbound + liveness.plan.window := by
  induction times generalizing liveness instant with
  | nil => cases polled
  | cons time times ih =>
    have last := lastInbound_poll liveness time
    have plan := plan_poll liveness time
    obtain ⟨prompt, outcome⟩ := poll_of_driven precise ahead next calls
    rcases List.mem_cons.mp polled with here | later
    · obtain ⟨rfl, rfl⟩ := LivenessEntry.polled.inj here
      have ends : now = liveness.lastInbound + liveness.plan.window := by omega
      have within := deadline_le_of_exact precise
      rcases liveness.poll_cases now with ⟨-, early⟩ | ⟨polls, -⟩ | ⟨polls, -⟩
      · omega
      · exact .inr ⟨by rw [polls], ends⟩
      · exact .inl (by rw [polls])
    · rcases outcome with ⟨-, -, same, settled⟩ | ⟨-, precise', due', ahead', next'⟩
      · rw [same] at later
        exact .inl (dead_of_settled settled later (by rw [precise settled]; exact late))
      · have tail := ih precise' ahead' next' (driven_cons calls).2 later (by rwa [last, plan])
        rwa [last, plan] at tail

/-! ### Whole runs -/

/-- **A silence is a run of polls from a fresh start.** -/
theorem follow_of_silence {calls : List LivenessCall} {last : Nat} {silence rest : List LivenessEntry}
    (started : liveness.probeSentAt = none) (silent : Silence (liveness.trace calls) last silence rest) :
    ∃ times : List Nat, silence = (fresh liveness.plan last).follow (times.map .poll) := by
  obtain ⟨⟨before, split⟩, polls⟩ := silent
  cases before with
  | nil =>
    obtain ⟨same, tail⟩ := List.cons.inj split
    cases same
    obtain ⟨plan, lastInbound, probeSentAt⟩ := liveness
    subst started
    exact follow_polls tail polls
  | cons entry before =>
    obtain ⟨after, tail⟩ := follow_after_inbound (List.cons.inj split).2
    exact follow_polls tail.symm polls

/-- A client without probes sends none. -/
theorem isProbe_of_passive {timeout : Nat} (plan : liveness.plan = .passive timeout)
    {calls : List LivenessCall} {entry : LivenessEntry} (shown : entry ∈ liveness.follow calls) :
    entry.isProbe = false := by
  induction calls generalizing liveness with
  | nil => cases shown
  | cons call calls ih =>
    cases call with
    | onInbound now =>
      rcases List.mem_cons.mp shown with rfl | later
      · rfl
      · exact ih (show (liveness.onInbound now).plan = _ from plan) later
    | poll now =>
      rcases List.mem_cons.mp shown with rfl | later
      · simp only [poll, plan, verdict]
        split <;> rfl
      · exact ih ((plan_poll liveness now).trans plan) later

/-- A silence of a driven run starts with a poll that is due at once. -/
theorem pollsAt_of_silence {trace : List LivenessEntry} {last : Nat} {silence rest : List LivenessEntry}
    (calls : driven LivenessEntry.dueAlways trace = true) (silent : Silence trace last silence rest) :
    pollsAt last (silence ++ rest) = true ∧ driven LivenessEntry.dueAlways (silence ++ rest) = true := by
  obtain ⟨⟨before, split⟩, -⟩ := silent
  rw [split] at calls
  obtain ⟨due, calls⟩ := driven_cons (driven_append_right calls)
  exact ⟨due last rfl, calls⟩

theorem lastInbound_le_deadline_fresh (plan : Plan) (now : Nat) : now ≤ (fresh plan now).deadline := by
  cases plan with
  | passive timeout => exact Nat.le_add_right now timeout
  | probe idle timeout => exact Nat.le_add_right now idle

end Liveness

/-- What the polls of an enabled configuration keep to in every run. -/
structure KeepsTime (config : HealthCheckConfig) (trace : List LivenessEntry) : Prop where
  notEarly : ∀ last silence rest now elapsed, Silence trace last silence rest →
    .polled now (.dead elapsed) ∈ silence →
      elapsed = config.detection ∧ last + config.detection ≤ now
  oneProbe : ∀ last silence rest, Silence trace last silence rest →
    silence.countP LivenessEntry.isProbe ≤ 1
  unanswered : config.probeEnabled = true → ∀ last silence rest earlier now elapsed later,
    Silence trace last silence rest → silence = earlier ++ .polled now (.dead elapsed) :: later →
      ∃ sent, .polled sent .sendProbe ∈ earlier ∧ sent + config.probeTimeoutOrDefault ≤ now
  passive : config.probeEnabled = false → ∀ entry ∈ trace, entry.isProbe = false
  onTime : DiesOnTime LivenessEntry.dueAlways config.detection trace
  notLate : driven LivenessEntry.dueAlways trace = true → ∀ last silence rest now action,
    Silence trace last silence rest → .polled now action ∈ silence → last + config.detection ≤ now →
      action = .dead config.detection ∨ action = .sendProbe ∧ now = last + config.detection

open Liveness in
/-- **Death comes neither early nor late.** In every run of an enabled configuration: no death ahead of
the end of the detection window; one probe in a silence, ahead of any death in it by the probe timeout;
none in passive mode; and where polls are called at the creation, at every frame, after every probe and at
the end of every wait, a silence longer than the window ends in death at exactly the end of the window.
Every frame starts the silence over. -/
theorem liveness_exact {config : HealthCheckConfig} {start : Nat} {liveness : Liveness}
    (enabled : Liveness.new config start = some liveness) (calls : List LivenessCall) :
    KeepsTime config (liveness.trace calls) ∧
      ∀ before now after, calls = before ++ .onInbound now :: after →
        ∃ again, Liveness.new config now = some again ∧
          liveness.follow calls = liveness.follow before ++ again.trace after := by
  obtain rfl := eq_fresh enabled
  have window := config.window_plan
  have polls {last : Nat} {silence rest : List LivenessEntry}
      (silent : Silence ((fresh config.plan start).trace calls) last silence rest) :
      ∃ times : List Nat, silence = (fresh config.plan last).follow (times.map .poll) :=
    follow_of_silence rfl silent
  constructor
  · refine ⟨?_, ?_, ?_, ?_, ?_, ?_⟩
    · intro last silence rest now elapsed silent dead
      obtain ⟨times, rfl⟩ := polls silent
      have ended := dead_of_follow (patient_fresh config.plan last) dead
      rwa [show (fresh config.plan last).plan = config.plan from rfl, window] at ended
    · intro last silence rest silent
      obtain ⟨times, rfl⟩ := polls silent
      exact Nat.le_trans (countP_isProbe_follow _ times) (Bool.toNat_le _)
    · intro probes last silence rest earlier now elapsed later silent split
      obtain ⟨times, rfl⟩ := polls silent
      have plan : (fresh config.plan last).plan =
          .probe config.idleProbeAfterOrDefault config.probeTimeoutOrDefault := if_pos probes
      obtain ⟨sent, listed | remembered, waited⟩ := probed_of_dead plan split
      · exact ⟨sent, listed, waited⟩
      · cases remembered
    · intro silent entry shown
      have plan : (fresh config.plan start).plan = .passive config.heartbeatTimeout :=
        if_neg (by rw [silent]; exact Bool.false_ne_true)
      rcases List.mem_cons.mp shown with rfl | later
      · rfl
      · exact isProbe_of_passive plan later
    · intro called last silence later after silent passed
      obtain ⟨next, rest⟩ := pollsAt_of_silence called silent
      obtain ⟨times, rfl⟩ := polls silent
      have dies := dies_of_driven (exact_fresh config.plan last)
        (lastInbound_le_deadline_fresh config.plan last) next rest (by rw [← window] at passed; exact passed)
      rw [show (fresh config.plan last).plan = config.plan from rfl, window] at dies
      refine ⟨dies, fun now elapsed dead => ?_⟩
      have ended := (dead_of_follow (patient_fresh config.plan last) dead).2
      rwa [show (fresh config.plan last).plan = config.plan from rfl, window] at ended
    · intro called last silence rest now action silent polled late
      obtain ⟨next, tail⟩ := pollsAt_of_silence called silent
      obtain ⟨times, rfl⟩ := polls silent
      have dies := dead_of_driven (exact_fresh config.plan last)
        (lastInbound_le_deadline_fresh config.plan last) next tail polled (by rw [← window] at late; exact late)
      rwa [show (fresh config.plan last).plan = config.plan from rfl, window] at dies
  · rintro before now after rfl
    have on : config.enabled = true := by
      by_contra off
      rw [Liveness.new, if_neg off] at enabled
      cases enabled
    exact ⟨fresh config.plan now, if_pos on, follow_onInbound _ before now after⟩

/-- A probe is sent after 10 s of silence and waited for 100 s. -/
def patientProbe : HealthCheckConfig where
  probeEnabled := true
  idleProbeAfter := some (milliseconds 10000)
  probeTimeout := some (milliseconds 100000)

/-- A frame comes a second after the probe, and the next poll is at the end of the wait that the poll after
the probe returned. -/
def staleWait : List LivenessCall :=
  [.poll 0, .poll (milliseconds 10000), .poll (milliseconds 10000), .onInbound (milliseconds 11000),
    .poll (milliseconds 110000), .poll (milliseconds 110000), .poll (milliseconds 210000)]

theorem liveness_exact_patientProbe :
    ∃ liveness, Liveness.new patientProbe 0 = some liveness ∧
      .polled (milliseconds 110000) (.dead (milliseconds 110000)) ∈
        liveness.follow [.poll 0, .poll (milliseconds 10000), .poll (milliseconds 10000),
          .poll (milliseconds 110000)] := by
  have enabled : Liveness.new patientProbe 0 = some (Liveness.fresh patientProbe.plan 0) := rfl
  refine ⟨_, enabled, ?_⟩
  have keeps := (liveness_exact enabled [.poll 0, .poll (milliseconds 10000),
    .poll (milliseconds 10000), .poll (milliseconds 110000), .poll (milliseconds 111000)]).1
  exact (keeps.onTime (by decide) 0 _ (.polled (milliseconds 111000) (.dead (milliseconds 110000))) []
    ⟨⟨[], rfl⟩, by decide⟩ (by decide)).1

/-- **Polling at the ends of the waits is not enough**: after a frame the wait that was returned before it
ends too late, the probe goes out late, and so does the death. -/
theorem stale_wait_dies_late :
    ¬ ∀ (config : HealthCheckConfig) (start : Nat) (liveness : Liveness) (calls : List LivenessCall),
      Liveness.new config start = some liveness →
      ((liveness.trace calls).map LivenessEntry.now).Pairwise (· ≤ ·) →
        DiesOnTime LivenessEntry.due config.detection (liveness.trace calls) := by
  intro always
  have dies := always patientProbe 0 (Liveness.fresh patientProbe.plan 0) staleWait rfl (by decide)
    (by decide) (milliseconds 11000)
    [.polled (milliseconds 110000) .sendProbe,
      .polled (milliseconds 110000) (.wait (milliseconds 210000))]
    (.polled (milliseconds 210000) (.dead (milliseconds 110000))) []
    ⟨⟨((Liveness.fresh patientProbe.plan 0).trace staleWait).take 4, rfl⟩, by decide⟩ (by decide)
  exact absurd dies.1 (by decide)

end FugleMarketdata
