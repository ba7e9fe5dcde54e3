import PresenceLogger.Library.Threads

/-!
# The return to DHCP

A request that puts a static address into use arms a timer that brings DHCP back unless the
address is confirmed.  Requests, confirmations and timers that fire run on threads of their own
and share one slot for the timer without a lock; an external command may fail, hang until it
times out, or raise.
-/

namespace PresenceLogger.Child

open Library

namespace IpRevert

inductive Mode where
  | static
  | dhcp
  deriving DecidableEq

/-- Whose `_net_apply_ip` it is: that of a request, or of a timer that has fired. -/
inductive Job where
  | request (mode : Mode)
  | revert

def Job.mode : Job → Mode
  | .request mode => mode
  | .revert => .dhcp

/-- The commands of `_net_apply_ip`: which of the two tools there is, `nmcli connection modify`
and `up`, the copy to `/etc/dhcpcd.conf` and the restart of `dhcpcd`. -/
inductive Command where
  | which
  | modify
  | up
  | copy
  | restart

/-- How a command ends; one that raises may have taken effect before. -/
inductive Result where
  | done
  | failed
  | raised (took : Bool)

def Result.took : Result → Bool
  | .done => true
  | .failed => false
  | .raised took => took

def Result.raises : Result → Bool
  | .raised _ => true
  | _ => false

/-- Who calls `_cancel_ip_revert`: a confirmation, `_schedule_ip_revert`, or a request for DHCP.
A confirmation keeps which application it found finished, a request which one was its own. -/
inductive Caller where
  | confirm (heard : Option Nat)
  | schedule (own : Option Nat)
  | dhcp

def Caller.confirms : Caller → Bool
  | .confirm _ => true
  | _ => false

/-- Where a thread stands, before the action that it takes next. -/
inductive Point where
  | sleeping (mode : Mode)
  | command (command : Command) (job : Job)
  /-- `_ip_revert.get('timer')` -/
  | reading (caller : Caller)
  /-- `t.cancel()` -/
  | cancelling (timer : Nat) (caller : Caller)
  /-- `_ip_revert['timer'] = None` -/
  | clearing (caller : Caller)
  /-- `t.start()` -/
  | starting (own : Option Nat)
  /-- `_ip_revert['timer'] = t` -/
  | storing (timer : Nat) (own : Option Nat)
  /-- `_ip_revert['timer'] = None` of a timer that has fired -/
  | reverting

/-- The slot of the server, its timers, the network, and what has happened to the address in
use. -/
structure Memory where
  /-- `_ip_revert['timer']` -/
  timer : Option Nat
  /-- The timers that were started and have neither been cancelled nor fired. -/
  live : List Nat
  /-- How many timers have been started. -/
  started : Nat
  /-- What the connection of NetworkManager says. -/
  profile : Mode
  /-- What `/etc/dhcpcd.conf` says. -/
  conf : Mode
  /-- How the address in use was given. -/
  inUse : Mode
  /-- How often an address has been applied. -/
  applied : Nat
  /-- A confirmation has arrived since. -/
  confirmed : Bool
  /-- The thread that applied it has finished. -/
  finished : Bool
  /-- A confirmation that arrived after that thread had finished has returned. -/
  settled : Bool

/-- A server that has applied no address yet. -/
def boot (profile conf inUse : Mode) : Memory :=
  { timer := none, live := [], started := 0, profile := profile, conf := conf, inUse := inUse
    applied := 0, confirmed := true, finished := true, settled := false }

inductive Routine where
  /-- `/set_ip_config` after its checks; the thread is that of `_apply`. -/
  | setIpConfig (thread : Nat) (mode : Mode)
  /-- `/confirm_ip_config` -/
  | confirmIpConfig (thread : Nat)
  /-- The time of a timer is over. -/
  | fire (thread : Nat) (timer : Nat)

def Routine.thread : Routine → Nat
  | .setIpConfig thread _ => thread
  | .confirmIpConfig thread => thread
  | .fire thread _ => thread

namespace Memory

/-- A configuration is put into use. -/
def apply (memory : Memory) (mode : Mode) : Memory :=
  { memory with
    inUse := mode, applied := memory.applied + 1, confirmed := false, finished := false
    settled := false }

/-- The thread of a request or of a timer ends. -/
def finish (memory : Memory) (own : Option Nat) : Memory :=
  if own = some memory.applied then { memory with finished := true } else memory

/-- A confirmation returns. -/
def settle (memory : Memory) (heard : Option Nat) : Memory :=
  if heard = some memory.applied then { memory with settled := true } else memory

end Memory

/-- What a step leaves; a confirmation answers whether a timer was pending. -/
abbrev Step := Outcome Memory Point Bool

/-- A request for a static address arms the timer once `_net_apply_ip` has returned. -/
def netApplied (memory : Memory) (job : Job) (own : Option Nat) : Step :=
  match job with
  | .request .static => ⟨memory, some (.reading (.schedule own)), []⟩
  | _ => ⟨memory.finish own, none, []⟩

/-- A command of `_net_apply_ip`; those of `dhcpcd` stand in a `try`. -/
def netApplyIp (memory : Memory) (job : Job) (result : Result) : Command → Step
  | .which =>
      match result with
      | .done => ⟨memory, some (.command .modify job), []⟩
      | .failed => ⟨memory, some (.command .copy job), []⟩
      | .raised _ => ⟨memory, none, []⟩
  | .modify =>
      let memory := if result.took then { memory with profile := job.mode } else memory
      ⟨memory, if result.raises then none else some (.command .up job), []⟩
  | .up =>
      if result.took then
        let memory := memory.apply memory.profile
        let own := some memory.applied
        if result.raises then ⟨memory.finish own, none, []⟩ else netApplied memory job own
      else if result.raises then ⟨memory, none, []⟩ else netApplied memory job none
  | .copy =>
      let memory := if result.took then { memory with conf := job.mode } else memory
      if result.raises then netApplied memory job none
      else ⟨memory, some (.command .restart job), []⟩
  | .restart =>
      if result.took then
        let memory := memory.apply memory.conf
        netApplied memory job (some memory.applied)
      else netApplied memory job none

/-- What follows `_cancel_ip_revert`. -/
def cancelled (memory : Memory) (canceled : Bool) : Caller → Step
  | .confirm heard => ⟨memory.settle heard, none, [canceled]⟩
  | .schedule own => ⟨memory, some (.starting own), []⟩
  | .dhcp => ⟨memory, some (.command .which (.request .dhcp)), []⟩

def start (memory : Memory) : Routine → Step
  | .setIpConfig _ mode => ⟨memory, some (.sleeping mode), []⟩
  | .confirmIpConfig _ =>
      let heard := if memory.finished then some memory.applied else none
      ⟨{ memory with confirmed := true }, some (.reading (.confirm heard)), []⟩
  | .fire _ timer =>
      if timer ∈ memory.live then
        ⟨{ memory with live := memory.live.filter (· ≠ timer) }, some .reverting, []⟩
      else ⟨memory, none, []⟩

def resume (memory : Memory) (point : Point) (result : Result) : Step :=
  match point with
  | .sleeping .static => ⟨memory, some (.command .which (.request .static)), []⟩
  | .sleeping .dhcp => ⟨memory, some (.reading .dhcp), []⟩
  | .command command job => netApplyIp memory job result command
  | .reading caller =>
      match memory.timer with
      | none => cancelled memory false caller
      | some timer => ⟨memory, some (.cancelling timer caller), []⟩
  | .cancelling timer caller =>
      ⟨{ memory with live := memory.live.filter (· ≠ timer) }, some (.clearing caller), []⟩
  | .clearing caller => cancelled { memory with timer := none } true caller
  | .starting own =>
      ⟨{ memory with live := memory.started :: memory.live, started := memory.started + 1 },
        some (.storing memory.started own), []⟩
  | .storing timer own => ⟨{ memory with timer := some timer }.finish own, none, []⟩
  | .reverting => ⟨{ memory with timer := none }, some (.command .which .revert), []⟩

/-- The threads of the server. -/
def program : Program Nat Routine Point Memory Result Bool Empty where
  thread := Routine.thread
  start := start
  resume := resume
  ends which _ := nomatch which
  restart memory _ := memory

abbrev State := ThreadState Nat Point Memory

/-! ## What is promised -/

/-- The point is one of `_apply` or of a timer that has fired. -/
def Point.applies : Point → Bool
  | .reading caller => !caller.confirms
  | .cancelling _ caller => !caller.confirms
  | .clearing caller => !caller.confirms
  | _ => true

/-- A static address is in use, and no confirmation has arrived since it was applied. -/
def Memory.Unconfirmed (memory : Memory) : Prop :=
  memory.inUse = .static ∧ memory.confirmed = false

/-- A static address is in use that was confirmed after its thread had finished. -/
def Memory.Settled (memory : Memory) : Prop := memory.inUse = .static ∧ memory.settled = true

structure Guarded (state : State) : Prop where
  /-- While no address is being applied, one that is not confirmed has a live timer. -/
  armed : state.memory.Unconfirmed →
    (∀ thread point, state.point thread = some point → point.applies = false) →
    state.memory.live ≠ []
  /-- No live timer undoes an address that is settled. -/
  undisturbed : state.memory.Settled → state.memory.live = []

/-! ## When it holds -/

/-- The slot and the timers do not fit while a thread stands here. -/
def Point.inside : Point → Bool
  | .cancelling _ _ => true
  | .clearing _ => true
  | .starting _ => true
  | .storing _ _ => true
  | .reverting => true
  | _ => false

/-- How the commands end that leave no static address without a timer. A request for a static
address does not fail once the address is in use; a return to DHCP is not cut off while an
unconfirmed address is in use, and its last command puts DHCP into use. -/
def Effective (memory : Memory) (result : Result) : Job → Command → Prop
  | .request .static, .up => result.took = true → result.raises = false
  | .request .static, _ => True
  | _, .up =>
      (result.took = true → memory.profile = .dhcp) ∧ (memory.Unconfirmed → result.took = true)
  | _, .restart =>
      (result.took = true → memory.conf = .dhcp) ∧ (memory.Unconfirmed → result.took = true)
  | _, _ => memory.Unconfirmed → result.raises = false

/-- The steps under which the promise is kept: no thread comes to the slot while another is in
the middle of a change, no confirmation cancels the timer of an address that was applied after it
had arrived, no timer is armed for an address that is settled, and the commands are effective. -/
def Permitted (state : State) : ThreadStep Nat Routine Result Empty → Prop
  | .call (.fire thread timer) =>
      timer ∈ state.memory.live → Program.Alone Point.inside state thread
  | .call _ => True
  | .resume thread result =>
      match state.point thread with
      | some (.reading caller) =>
          Program.Alone Point.inside state thread ∧
            (caller.confirms = true → state.memory.timer ≠ none → ¬state.memory.Unconfirmed)
      | some (.starting _) => ¬state.memory.Settled
      | some (.command command job) => Effective state.memory result job command
      | _ => True
  | .crash which => nomatch which

/-! ## The slot and the timers -/

/-- What a thread knows in the middle of a change. -/
def Within : Point → Memory → Prop
  | .cancelling timer _, memory => memory.live = [timer]
  | .clearing _, memory => memory.live = []
  | .starting _, memory => memory.live = []
  | .storing timer _, memory => memory.live = [timer]
  | .reverting, memory => memory.live = []
  | _, _ => True

/-- The slot has the only live timer. -/
def Fits (memory : Memory) : Prop := memory.live = memory.timer.toList

abbrev Knows (memory : Memory) (point : Option Point) : Prop :=
  Program.Knows Point.inside Within Fits memory point

@[simp] theorem finish_live (memory : Memory) (own : Option Nat) :
    (memory.finish own).live = memory.live := by
  rw [Memory.finish]
  split <;> rfl

@[simp] theorem finish_timer (memory : Memory) (own : Option Nat) :
    (memory.finish own).timer = memory.timer := by
  rw [Memory.finish]
  split <;> rfl

@[simp] theorem settle_live (memory : Memory) (heard : Option Nat) :
    (memory.settle heard).live = memory.live := by
  rw [Memory.settle]
  split <;> rfl

@[simp] theorem settle_timer (memory : Memory) (heard : Option Nat) :
    (memory.settle heard).timer = memory.timer := by
  rw [Memory.settle]
  split <;> rfl

/-- After a cancellation that leaves the slot empty. -/
theorem knows_cancelled {memory : Memory} (canceled : Bool) (empty : memory.timer = none)
    (none : memory.live = []) (caller : Caller) :
    Knows (cancelled memory canceled caller).memory (cancelled memory canceled caller).point := by
  cases caller with
  | confirm heard => simp [cancelled, Knows, Program.Knows, Fits, empty, none]
  | schedule own => exact none
  | dhcp => simp [cancelled, Knows, Program.Knows, Point.inside, Fits, empty, none]

/-- An action at the slot establishes what its thread knows next. -/
theorem knows_resume {memory : Memory} {point : Point}
    (atSlot : point.inside = true ∨ ∃ caller, point = .reading caller)
    (knows : Knows memory (some point)) (result : Result) :
    Knows (resume memory point result).memory (resume memory point result).point := by
  cases point with
  | sleeping mode => simp [Point.inside] at atSlot
  | command command job => simp [Point.inside] at atSlot
  | reading caller =>
      have fits : memory.live = memory.timer.toList := knows
      rw [resume]
      split
      next empty =>
        rw [empty] at fits
        exact knows_cancelled false empty fits caller
      next timer filled =>
        rw [filled] at fits
        exact fits
  | cancelling timer caller =>
      have only : memory.live = [timer] := knows
      simp [resume, Knows, Program.Knows, Point.inside, Within, only]
  | clearing caller => exact @knows_cancelled { memory with timer := none } true rfl knows caller
  | starting own =>
      have none : memory.live = [] := knows
      simp [resume, Knows, Program.Knows, Point.inside, Within, none]
  | storing timer own =>
      have only : memory.live = [timer] := knows
      simp [resume, Knows, Program.Knows, Fits, only]
  | reverting =>
      have none : memory.live = [] := knows
      simp [resume, Knows, Program.Knows, Point.inside, Fits, none]

/-- An action that leaves the slot and the timers alone, and stays outside. -/
structure Neutral (memory : Memory) (outcome : Step) : Prop where
  timer : outcome.memory.timer = memory.timer
  live : outcome.memory.live = memory.live
  outside : ∀ point ∈ outcome.point, point.inside = false

theorem neutral_netApplied {memory after : Memory} (timer : after.timer = memory.timer)
    (live : after.live = memory.live) (job : Job) (own : Option Nat) :
    Neutral memory (netApplied after job own) := by
  rw [netApplied.eq_def]
  split
  · exact ⟨timer, live, by simp [Point.inside]⟩
  · exact ⟨by rw [finish_timer, timer], by rw [finish_live, live], by simp⟩

theorem neutral_netApplyIp (memory : Memory) (job : Job) (result : Result) (command : Command) :
    Neutral memory (netApplyIp memory job result command) := by
  cases command with
  | which => cases result <;> exact ⟨rfl, rfl, by simp [netApplyIp, Point.inside]⟩
  | modify =>
      rw [netApplyIp]
      refine ⟨?_, ?_, ?_⟩
      · dsimp only
        split <;> rfl
      · dsimp only
        split <;> rfl
      · dsimp only
        split <;> simp [Point.inside]
  | up =>
      rw [netApplyIp]
      split
      · dsimp only
        split
        · exact ⟨finish_timer _ _, finish_live _ _, by simp⟩
        · exact neutral_netApplied (by rfl) (by rfl) job _
      · split
        · exact ⟨rfl, rfl, by simp⟩
        · exact neutral_netApplied (by rfl) (by rfl) job _
  | copy =>
      rw [netApplyIp]
      split
      · exact neutral_netApplied (by split <;> rfl) (by split <;> rfl) job _
      · exact ⟨by dsimp only; split <;> rfl, by dsimp only; split <;> rfl, by simp [Point.inside]⟩
  | restart =>
      rw [netApplyIp]
      split
      · exact neutral_netApplied (by rfl) (by rfl) job _
      · exact neutral_netApplied (by rfl) (by rfl) job _

/-- A thread that goes on outside, from a point outside, does so without the slot. -/
theorem neutral_resume (memory : Memory) {point : Point} (outside : point.inside = false)
    (elsewhere : ∀ caller, point ≠ .reading caller) (result : Result) :
    Neutral memory (resume memory point result) := by
  cases point with
  | sleeping mode => cases mode <;> exact ⟨rfl, rfl, by simp [resume, Point.inside]⟩
  | command command job => exact neutral_netApplyIp memory job result command
  | reading caller => exact absurd rfl (elsewhere caller)
  | cancelling timer caller => cases outside
  | clearing caller => cases outside
  | starting own => cases outside
  | storing timer own => cases outside
  | reverting => cases outside

/-- The exclusion of the sections, and what is known in them. -/
abbrev Exclusive (state : State) : Prop := Program.Exclusive Point.inside Within Fits state

abbrev Alone (state : State) (thread : Nat) : Prop := Program.Alone Point.inside state thread

theorem Neutral.exclusive {state : State} {thread : Nat} {outcome : Step}
    (neutral : Neutral state.memory outcome) (exclusive : Exclusive state)
    (was : ∀ point ∈ state.point thread, point.inside = false) :
    Exclusive (Program.install state thread outcome) := by
  apply exclusive.install_outside was neutral.outside
  intro point knows
  have within : ∀ here, Within here state.memory → Within here outcome.memory := by
    intro here
    cases here <;> simp only [Within, neutral.live, imp_self]
  have fits : Fits state.memory → Fits outcome.memory := by
    rw [Fits, Fits, neutral.live, neutral.timer]
    exact id
  cases point with
  | none => exact fits knows
  | some here =>
      simp only [Program.Knows] at knows ⊢
      split
      next inside =>
        rw [if_pos inside] at knows
        exact within here knows
      next outside =>
        rw [if_neg outside] at knows
        exact fits knows

/-- A timer that fires was the one in the slot. -/
theorem knows_fire {memory : Memory} {timer : Nat} (fits : Fits memory)
    (live : timer ∈ memory.live) : memory.live.filter (· ≠ timer) = [] := by
  rw [fits] at live ⊢
  rw [Option.mem_toList] at live
  simp [live]

/-- The thread that comes to the slot, or is inside, is the only one. -/
theorem alone_of_permitted {state : State} {thread : Nat} {point : Point} {result : Result}
    (exclusive : Exclusive state) (stands : state.point thread = some point)
    (permitted : Permitted state (.resume thread result))
    (atSlot : point.inside = true ∨ ∃ caller, point = .reading caller) : Alone state thread := by
  rcases atSlot with inside | ⟨caller, rfl⟩
  · exact exclusive.alone thread point stands inside
  · simp only [Permitted, stands] at permitted
    exact permitted.1

theorem Exclusive.step {state : State} {step : ThreadStep Nat Routine Result Empty}
    {thread : Nat} {outcome : Step} (exclusive : Exclusive state)
    (permitted : Permitted state step) (acts : program.Acts state step thread outcome) :
    Exclusive (Program.install state thread outcome) := by
  cases acts with
  | call routine free =>
      have was : ∀ point ∈ state.point (program.thread routine), point.inside = false := by
        simp [free]
      cases routine with
      | setIpConfig thread mode =>
          have neutral : Neutral state.memory (start state.memory (.setIpConfig thread mode)) :=
            ⟨rfl, rfl, by simp [start, Point.inside]⟩
          exact neutral.exclusive exclusive was
      | confirmIpConfig thread =>
          have neutral : Neutral state.memory (start state.memory (.confirmIpConfig thread)) :=
            ⟨rfl, rfl, by simp [start, Point.inside]⟩
          exact neutral.exclusive exclusive was
      | fire thread timer =>
          by_cases live : timer ∈ state.memory.live
          · have alone := permitted live
            have fits := exclusive.knows thread alone
            rw [show state.point thread = none from free] at fits
            apply Program.Exclusive.install_alone alone
            simp only [program, start, if_pos live]
            exact knows_fire fits live
          · have neutral : Neutral state.memory (start state.memory (.fire thread timer)) := by
              simp only [start, if_neg live]
              exact ⟨rfl, rfl, by simp⟩
            exact neutral.exclusive exclusive was
  | resume thread result point stands =>
      by_cases atSlot : point.inside = true ∨ ∃ caller, point = .reading caller
      · have alone := alone_of_permitted exclusive stands permitted atSlot
        have knows := exclusive.knows thread alone
        rw [stands] at knows
        exact Program.Exclusive.install_alone alone (knows_resume atSlot knows result)
      · rw [not_or, Bool.not_eq_true, not_exists] at atSlot
        have neutral := neutral_resume state.memory atSlot.1 atSlot.2 result
        apply neutral.exclusive exclusive
        rw [stands]
        exact fun here isPoint => Option.some_inj.mp isPoint ▸ atSlot.1

/-! ## Addresses that are settled -/

@[simp] theorem finish_settled (memory : Memory) (own : Option Nat) :
    (memory.finish own).Settled ↔ memory.Settled := by
  rw [Memory.finish]
  split <;> exact Iff.rfl

theorem settled_netApplied {memory : Memory} {job : Job} {own : Option Nat} :
    (netApplied memory job own).memory.Settled ↔ memory.Settled := by
  rw [netApplied.eq_def]
  split
  · exact Iff.rfl
  · exact finish_settled memory own

/-- An address that is put into use is not settled. -/
theorem not_settled_apply (memory : Memory) (mode : Mode) : ¬(memory.apply mode).Settled :=
  fun settled => Bool.false_ne_true settled.2

theorem settled_netApplyIp {memory : Memory} {job : Job} {result : Result} {command : Command}
    (settled : (netApplyIp memory job result command).memory.Settled) : memory.Settled := by
  cases command with
  | which => cases result <;> exact settled
  | modify =>
      rw [netApplyIp] at settled
      dsimp only at settled
      split at settled <;> exact settled
  | up =>
      rw [netApplyIp] at settled
      split at settled
      · dsimp only at settled
        split at settled
        · exact absurd ((finish_settled _ _).mp settled) (not_settled_apply _ _)
        · exact absurd (settled_netApplied.mp settled) (not_settled_apply _ _)
      · split at settled
        · exact settled
        · exact settled_netApplied.mp settled
  | copy =>
      rw [netApplyIp] at settled
      split at settled
      · have before := settled_netApplied.mp settled
        split at before <;> exact before
      · dsimp only at settled
        split at settled <;> exact settled
  | restart =>
      rw [netApplyIp] at settled
      split at settled
      · exact absurd (settled_netApplied.mp settled) (not_settled_apply _ _)
      · exact settled_netApplied.mp settled

/-- No timer is live behind a settled address. -/
def Undisturbed (memory : Memory) : Prop := memory.Settled → memory.live = []

theorem Undisturbed.of_same {memory after : Memory} (undisturbed : Undisturbed memory)
    (settled : after.Settled → memory.Settled) (live : after.live = memory.live) :
    Undisturbed after := fun now => live.trans (undisturbed (settled now))

theorem Undisturbed.of_filter {memory : Memory} (undisturbed : Undisturbed memory)
    (timer : Nat) : Undisturbed { memory with live := memory.live.filter (· ≠ timer) } := by
  intro settled
  dsimp only
  rw [undisturbed settled, List.filter_nil]

theorem undisturbed_cancelled {memory : Memory} (none : memory.live = []) (canceled : Bool)
    (caller : Caller) : Undisturbed (cancelled memory canceled caller).memory := by
  intro _
  cases caller with
  | confirm heard => exact (settle_live memory heard).trans none
  | schedule own => exact none
  | dhcp => exact none

theorem undisturbed_start {memory : Memory} (undisturbed : Undisturbed memory)
    (routine : Routine) : Undisturbed (start memory routine).memory := by
  cases routine with
  | setIpConfig thread mode => exact undisturbed
  | confirmIpConfig thread => exact undisturbed
  | fire thread timer =>
      rw [start]
      split
      · exact undisturbed.of_filter timer
      · exact undisturbed

/-- A thread that knows its section, and that arms no timer for a settled address. -/
theorem undisturbed_resume {memory : Memory} {point : Point} (undisturbed : Undisturbed memory)
    (knows : point.inside = true ∨ (∃ caller, point = .reading caller) →
      Knows memory (some point))
    (arms : ∀ own, point = .starting own → ¬memory.Settled) (result : Result) :
    Undisturbed (resume memory point result).memory := by
  cases point with
  | sleeping mode => cases mode <;> exact undisturbed
  | command command job =>
      exact undisturbed.of_same settled_netApplyIp
        (neutral_netApplyIp memory job result command).live
  | reading caller =>
      have fits : Fits memory := knows (.inr ⟨caller, rfl⟩)
      rw [resume]
      split
      next empty =>
        rw [Fits, empty] at fits
        exact undisturbed_cancelled fits false caller
      · exact undisturbed
  | cancelling timer caller => exact undisturbed.of_filter timer
  | clearing caller =>
      exact @undisturbed_cancelled { memory with timer := none } (knows (.inl rfl)) true caller
  | starting own => exact fun settled => absurd settled (arms own rfl)
  | storing timer own =>
      exact undisturbed.of_same (finish_settled _ own).mp (finish_live _ own)
  | reverting => exact undisturbed

/-! ## Addresses that are not confirmed -/

/-- The thread of the point will have armed a timer or brought DHCP back when it ends. -/
def Point.owes : Point → Bool
  | .sleeping _ => false
  | .command _ (.request .static) => false
  | .command _ _ => true
  | .reading (.schedule _) => true
  | .reading _ => false
  | .cancelling _ (.schedule _) => true
  | .cancelling _ _ => false
  | .clearing caller => !caller.confirms
  | .starting _ => true
  | .storing _ _ => true
  | .reverting => true

/-- No timer is live, or a confirmation is about to cancel the last. -/
def Exposed (state : State) : Prop :=
  state.memory.live = [] ∨
    ∃ thread timer heard, state.point thread = some (.cancelling timer (.confirm heard))

/-- An unconfirmed address without a timer has a thread that takes care of it. -/
def Covered (state : State) : Prop :=
  state.memory.Unconfirmed → Exposed state →
    ∃ thread point, state.point thread = some point ∧ point.owes = true

/-- What an action does to an address that is not confirmed. -/
inductive Covers (memory : Memory) (point : Option Point) (outcome : Step) : Prop where
  /-- Its thread takes care of the address from now on. -/
  | owes (next : Point) (goes : outcome.point = some next) (owes : next.owes = true)
  /-- No unconfirmed address is in use afterwards. -/
  | confirmed (none : ¬outcome.memory.Unconfirmed)
  /-- A thread that need not take care of it leaves the address and the timers alone. -/
  | neutral (free : ∀ here ∈ point, here.owes = false)
      (same : outcome.memory.Unconfirmed → memory.Unconfirmed)
      (live : outcome.memory.live = memory.live)
      (elsewhere : ∀ timer heard, outcome.point ≠ some (.cancelling timer (.confirm heard)))

/-- An action that leaves things alone leaves the thread that takes care of the address. -/
theorem Covered.keep {state : State} {thread : Nat} {outcome : Step} (covered : Covered state)
    (free : ∀ here ∈ state.point thread, here.owes = false)
    (same : outcome.memory.Unconfirmed → state.memory.Unconfirmed)
    (exposed : Exposed (Program.install state thread outcome) → Exposed state) :
    Covered (Program.install state thread outcome) := by
  intro unconfirmed isExposed
  obtain ⟨other, point, stands, owes⟩ := covered (same unconfirmed) (exposed isExposed)
  refine ⟨other, point, ?_, owes⟩
  rw [Program.install_point_of_ne state outcome, stands]
  rintro rfl
  cases owes.symm.trans (free point stands)

theorem Covers.covered {state : State} {thread : Nat} {outcome : Step}
    (covers : Covers state.memory (state.point thread) outcome) (covered : Covered state) :
    Covered (Program.install state thread outcome) := by
  cases covers with
  | owes next goes owes =>
      exact fun _ _ => ⟨thread, next, by rw [Program.install_point_self, goes], owes⟩
  | confirmed none => exact fun unconfirmed => absurd unconfirmed none
  | neutral free same live elsewhere =>
      apply covered.keep free same
      rintro (none | ⟨other, timer, heard, stands⟩)
      · exact .inl (live.symm.trans none)
      · obtain ⟨rfl, here⟩ | ⟨-, there⟩ := Program.of_install_point stands
        · exact absurd here (elsewhere timer heard)
        · exact .inr ⟨other, timer, heard, there⟩

/-! ### Commands -/

@[simp] theorem finish_unconfirmed (memory : Memory) (own : Option Nat) :
    (memory.finish own).Unconfirmed ↔ memory.Unconfirmed := by
  rw [Memory.finish]
  split <;> exact Iff.rfl

@[simp] theorem settle_unconfirmed (memory : Memory) (heard : Option Nat) :
    (memory.settle heard).Unconfirmed ↔ memory.Unconfirmed := by
  rw [Memory.settle]
  split <;> exact Iff.rfl

/-- DHCP is put into use. -/
theorem not_unconfirmed_apply {memory : Memory} {mode : Mode} (isDhcp : mode = .dhcp) :
    ¬(memory.apply mode).Unconfirmed := by
  rintro ⟨isStatic, -⟩
  cases isDhcp.symm.trans isStatic

/-- `_net_apply_ip` returns to a request that arms a timer, or no unconfirmed address is in
use. -/
theorem covers_netApplied {memory after : Memory} {point : Option Point} {job : Job}
    (own : Option Nat) (brought : job ≠ .request .static → ¬after.Unconfirmed) :
    Covers memory point (netApplied after job own) := by
  rw [netApplied.eq_def]
  split
  · exact .owes _ rfl rfl
  next other =>
    apply Covers.confirmed
    rw [finish_unconfirmed]
    exact brought other

theorem covers_netApplyIp_static {memory : Memory} {result : Result} {command : Command}
    (effective : Effective memory result (.request .static) command) :
    Covers memory (some (.command command (.request .static)))
      (netApplyIp memory (.request .static) result command) := by
  have free : ∀ here ∈ some (Point.command command (.request .static)), here.owes = false := by
    simp [Point.owes]
  cases command with
  | which => cases result <;> exact .neutral free id rfl (by simp [netApplyIp])
  | modify =>
      rw [netApplyIp]
      exact .neutral free (by dsimp only; split <;> exact id) (by dsimp only; split <;> rfl)
        (by dsimp only; split <;> simp)
  | up =>
      rw [netApplyIp]
      split
      next took =>
        dsimp only
        rw [if_neg (by rw [effective took]; exact Bool.false_ne_true)]
        exact .owes _ rfl rfl
      · split
        · exact .neutral free id rfl (by simp)
        · exact .owes _ rfl rfl
  | copy =>
      rw [netApplyIp]
      split
      · exact .owes _ rfl rfl
      · exact .neutral free (by dsimp only; split <;> exact id) (by dsimp only; split <;> rfl)
          (by simp)
  | restart =>
      rw [netApplyIp]
      split
      · exact .owes _ rfl rfl
      · exact .owes _ rfl rfl

theorem effective_return {memory : Memory} {result : Result} {job : Job} {command : Command}
    (other : job ≠ .request .static) (effective : Effective memory result job command) :
    Effective memory result .revert command := by
  cases job with
  | request mode =>
      cases mode with
      | static => exact absurd rfl other
      | dhcp => cases command <;> exact effective
  | revert => exact effective

/-- A return to DHCP. -/
theorem covers_netApplyIp_dhcp {memory : Memory} {point : Option Point} {job : Job}
    {result : Result} {command : Command} (other : job ≠ .request .static)
    (effective : Effective memory result job command) :
    Covers memory point (netApplyIp memory job result command) := by
  have owes (next : Command) : (Point.command next job).owes = true := by
    cases job with
    | request mode =>
        cases mode with
        | static => exact absurd rfl other
        | dhcp => rfl
    | revert => rfl
  have permits := effective_return other effective
  cases command with
  | which =>
      cases result with
      | done => exact .owes _ rfl (owes .modify)
      | failed => exact .owes _ rfl (owes .copy)
      | raised took => exact .confirmed fun unconfirmed => nomatch permits unconfirmed
  | modify =>
      rw [netApplyIp]
      by_cases raises : result.raises = true
      · apply Covers.confirmed
        intro unconfirmed
        have before : memory.Unconfirmed := by
          dsimp only at unconfirmed
          split at unconfirmed <;> exact unconfirmed
        cases raises.symm.trans (permits before)
      · exact .owes _ (if_neg raises) (owes .up)
  | up =>
      rw [netApplyIp]
      split
      next took =>
        have isDhcp := permits.1 took
        dsimp only
        split
        · exact .confirmed ((finish_unconfirmed _ _).not.mpr (not_unconfirmed_apply isDhcp))
        · exact covers_netApplied _ fun _ => not_unconfirmed_apply isDhcp
      next fails =>
        have confirmed : ¬memory.Unconfirmed := fun unconfirmed => fails (permits.2 unconfirmed)
        split
        · exact .confirmed confirmed
        · exact covers_netApplied _ fun _ => confirmed
  | copy =>
      rw [netApplyIp]
      split
      next raises =>
        apply covers_netApplied
        intro _ unconfirmed
        have before : memory.Unconfirmed := by
          split at unconfirmed <;> exact unconfirmed
        cases raises.symm.trans (permits before)
      · exact .owes _ rfl (owes .restart)
  | restart =>
      rw [netApplyIp]
      split
      next took => exact covers_netApplied _ fun _ => not_unconfirmed_apply (permits.1 took)
      next fails =>
        exact covers_netApplied _ fun _ unconfirmed => fails (permits.2 unconfirmed)

/-! ### Steps -/

theorem covers_start (memory : Memory) (routine : Routine) :
    Covers memory none (start memory routine) := by
  cases routine with
  | setIpConfig thread mode => exact .neutral (by simp) id rfl (by simp [start])
  | confirmIpConfig thread => exact .confirmed fun unconfirmed => nomatch unconfirmed.2
  | fire thread timer =>
      rw [start]
      split
      · exact .owes .reverting rfl rfl
      · exact .neutral (by simp) id rfl (by simp)

/-- A confirmation returns, or another caller goes on with what it owes. -/
theorem covers_cancelled {memory after : Memory} {point : Option Point} {caller : Caller}
    (canceled : Bool) (free : caller.confirms = true → ∀ here ∈ point, here.owes = false)
    (same : after.Unconfirmed → memory.Unconfirmed) (live : after.live = memory.live) :
    Covers memory point (cancelled after canceled caller) := by
  cases caller with
  | confirm heard =>
      exact .neutral (free rfl) (fun unconfirmed => same ((settle_unconfirmed _ _).mp unconfirmed))
        ((settle_live _ _).trans live) (by simp [cancelled])
  | schedule own => exact .owes _ rfl rfl
  | dhcp => exact .owes _ rfl rfl

/-- Every action takes care of an unconfirmed address, but for the two that need to know what
other threads do. -/
theorem covers_resume {memory : Memory} {point : Point} {result : Result}
    (reads : ∀ caller, point = .reading caller → caller.confirms = true →
      memory.timer ≠ none → ¬memory.Unconfirmed)
    (effective : ∀ command job, point = .command command job →
      Effective memory result job command)
    (notLast : ∀ timer own, point ≠ .storing timer own)
    (notCancelling : ∀ timer heard, point ≠ .cancelling timer (.confirm heard)) :
    Covers memory (some point) (resume memory point result) := by
  cases point with
  | sleeping mode =>
      cases mode <;> exact .neutral (by simp [Point.owes]) id rfl (by simp [resume])
  | command command job =>
      have effective := effective command job rfl
      by_cases isStatic : job = .request .static
      · subst isStatic
        exact covers_netApplyIp_static effective
      · exact covers_netApplyIp_dhcp isStatic effective
  | reading caller =>
      have reads := reads caller rfl
      rw [resume]
      split
      · apply covers_cancelled false ?_ id rfl
        intro confirms
        cases caller <;> simp_all [Point.owes, Caller.confirms]
      next timer filled =>
        cases caller with
        | confirm heard =>
            have present : memory.timer ≠ none := by simp [filled]
            exact .confirmed (reads rfl present)
        | schedule own => exact .owes _ rfl rfl
        | dhcp => exact .neutral (by simp [Point.owes]) id rfl (by simp)
  | cancelling timer caller =>
      cases caller with
      | confirm heard => exact absurd rfl (notCancelling timer heard)
      | schedule own => exact .owes _ rfl rfl
      | dhcp => exact .owes _ rfl rfl
  | clearing caller =>
      apply @covers_cancelled memory { memory with timer := none } _ caller true ?_ id rfl
      intro confirms here isHere
      cases isHere
      simp [Point.owes, confirms]
  | starting own => exact .owes _ rfl rfl
  | storing timer own => exact absurd rfl (notLast timer own)
  | reverting => exact .owes _ rfl rfl

/-- A confirmation cancels a timer: an unconfirmed address that is in use by then has a thread
that takes care of it. -/
theorem Covered.cancel {state : State} {thread timer : Nat} {heard : Option Nat}
    (covered : Covered state)
    (stands : state.point thread = some (.cancelling timer (.confirm heard))) (result : Result) :
    Covered (Program.install state thread
      (resume state.memory (.cancelling timer (.confirm heard)) result)) := by
  apply covered.keep
  · rw [stands]
    simp [Point.owes]
  · exact id
  · exact fun _ => .inr ⟨thread, timer, heard, stands⟩

/-- The timer is armed and in the slot. -/
theorem covered_store {state : State} {thread timer : Nat} {own : Option Nat}
    (alone : Alone state thread) (live : state.memory.live = [timer]) (result : Result) :
    Covered (Program.install state thread
      (resume state.memory (.storing timer own) result)) := by
  rintro - (none | ⟨other, another, heard, stands⟩)
  · have stays : state.memory.live = [] :=
      (finish_live { state.memory with timer := some timer } own).symm.trans none
    cases live.symm.trans stays
  · obtain ⟨-, here⟩ | ⟨apart, there⟩ := Program.of_install_point stands
    · cases here
    · cases alone other _ apart there

theorem Covered.step {state : State} {step : ThreadStep Nat Routine Result Empty} {thread : Nat}
    {outcome : Step} (covered : Covered state) (exclusive : Exclusive state)
    (permitted : Permitted state step) (acts : program.Acts state step thread outcome) :
    Covered (Program.install state thread outcome) := by
  cases acts with
  | call routine free =>
      have covers := covers_start state.memory routine
      rw [← free] at covers
      exact covers.covered covered
  | resume thread result point stands =>
      have permits := permitted
      simp only [Permitted, stands] at permits
      by_cases isLast : ∃ timer own, point = .storing timer own
      · obtain ⟨timer, own, rfl⟩ := isLast
        have alone := exclusive.alone thread _ stands rfl
        have knows := exclusive.knows thread alone
        rw [stands] at knows
        exact covered_store alone knows result
      by_cases cancels : ∃ timer heard, point = .cancelling timer (.confirm heard)
      · obtain ⟨timer, heard, rfl⟩ := cancels
        exact covered.cancel stands result
      have covers : Covers state.memory (some point) (resume state.memory point result) := by
        apply covers_resume
        · rintro caller rfl
          exact permits.2
        · rintro command job rfl
          exact permits
        · exact fun timer own same => isLast ⟨timer, own, same⟩
        · exact fun timer heard same => cancels ⟨timer, heard, same⟩
      rw [← stands] at covers
      exact covers.covered covered

/-! ## Every run -/

/-- What every permitted step keeps. -/
structure Sound (state : State) : Prop where
  exclusive : Exclusive state
  undisturbed : Undisturbed state.memory
  covered : Covered state

theorem Sound.step {state : State} {step : ThreadStep Nat Routine Result Empty}
    (sound : Sound state) (permitted : Permitted state step) :
    Sound (program.step state step).1 := by
  obtain ⟨thread, outcome, acts, same⟩ | ⟨which, -⟩ | same := program.step_cases state step
  · rw [same]
    refine ⟨sound.exclusive.step permitted acts, ?_,
      sound.covered.step sound.exclusive permitted acts⟩
    cases acts with
    | call routine free => exact undisturbed_start sound.undisturbed routine
    | resume thread result point stands =>
        apply undisturbed_resume sound.undisturbed
        · intro atSlot
          have alone := alone_of_permitted sound.exclusive stands permitted atSlot
          have knows := sound.exclusive.knows thread alone
          rwa [stands] at knows
        · rintro own rfl
          simpa only [Permitted, stands] using permitted
  · exact nomatch which
  · rw [same]
    exact sound

theorem sound_boot (profile conf inUse : Mode) :
    Sound (Program.idle (boot profile conf inUse)) where
  exclusive := {
    alone := fun _ _ stands => nomatch stands
    knows := fun _ _ => rfl }
  undisturbed := fun _ => rfl
  covered := fun unconfirmed => nomatch unconfirmed.2

/-- A thread that takes care of an unconfirmed address applies one. -/
theorem applies_of_owes {point : Point} (owes : point.owes = true) : point.applies = true := by
  cases point with
  | reading caller => cases caller <;> first | rfl | exact owes
  | cancelling timer caller => cases caller <;> first | rfl | exact owes
  | clearing caller => exact owes
  | _ => rfl

theorem Sound.guarded {state : State} (sound : Sound state) : Guarded state where
  armed := by
    intro unconfirmed quiet none
    obtain ⟨thread, point, stands, owes⟩ := sound.covered unconfirmed (.inl none)
    cases (quiet thread point stands).symm.trans (applies_of_owes owes)
  undisturbed := sound.undisturbed

/-- In every state of a run whose steps are permitted, an unconfirmed static address has a live
timer, and a settled one has none that undoes it. -/
theorem revertArmed_run (profile conf inUse : Mode)
    (steps : List (ThreadStep Nat Routine Result Empty))
    (meets : program.machine.Meets Permitted (Program.idle (boot profile conf inUse)) steps) :
    Guarded (program.machine.final (Program.idle (boot profile conf inUse)) steps) := by
  have kept : ∀ state step, Sound state → Permitted state step →
      Sound (program.machine.step state step).1 := fun _ _ sound permitted => sound.step permitted
  exact (Machine.stateInvariant kept (sound_boot profile conf inUse) meets).guarded

/-- A static address that is applied and confirmed. -/
theorem revertArmed_run_confirmed :
    Guarded (program.machine.final (Program.idle (boot .dhcp .dhcp .dhcp))
      (.call (.setIpConfig 0 .static) :: Program.resumes 0 (List.replicate 7 .done) ++
        .call (.confirmIpConfig 0) :: Program.resumes 0 (List.replicate 3 .done))) := by
  apply revertArmed_run
  have alone {state : State} (others : ∀ other, other ≠ 0 → state.point other = none) :
      Alone state 0 := by
    intro other point apart stands
    cases (others other apart).symm.trans stands
  have resumed {state : State} (others : ∀ other, other ≠ 0 → state.point other = none) :
      ∀ other, other ≠ 0 → (program.step state (.resume 0 .done)).1.point other = none :=
    fun other apart => (program.step_resume_point_of_ne state apart _).trans (others other apart)
  have called {state : State} (routine : Routine) (isThread : routine.thread = 0)
      (others : ∀ other, other ≠ 0 → state.point other = none) :
      ∀ other, other ≠ 0 → (program.step state (.call routine)).1.point other = none := by
    intro other apart
    rw [← isThread] at apart
    exact (program.step_call_point_of_ne state apart).trans (others other (isThread ▸ apart))
  have idle : ∀ other, other ≠ 0 →
      (Program.idle (boot .dhcp .dhcp .dhcp) : State).point other = none := fun _ _ => rfl
  have applied := resumed <| resumed <| resumed <| resumed <|
    called (.setIpConfig 0 .static) rfl idle
  have heard := called (.confirmIpConfig 0) rfl <| resumed <| resumed <| resumed applied
  refine ⟨trivial, trivial, trivial, trivial, fun _ => rfl, ⟨alone applied, ?_⟩, ?_, trivial,
    trivial, ⟨alone heard, ?_⟩, trivial, trivial, trivial⟩
  · exact fun confirms => nomatch confirms
  · exact fun settled => nomatch settled.2
  · exact fun _ _ unconfirmed => nomatch unconfirmed.2

/-- `nmcli connection up` hangs after the address is in use: the thread ends before it arms the
timer. -/
theorem not_guarded_timeout :
    ¬Guarded (program.machine.final (Program.idle (boot .dhcp .dhcp .dhcp))
      (.call (.setIpConfig 0 .static) ::
        Program.resumes 0 [.done, .done, .done, .raised true])) := by
  have ended := (@Program.run_alone _ _ _ _ _ _ _ _ program (boot .dhcp .dhcp .dhcp)
    (.setIpConfig 0 .static) [.done, .done, .done, .raised true] rfl).1
  intro guarded
  have idle := ended ▸ guarded
  exact idle.armed ⟨rfl, rfl⟩ (fun _ _ stands => nomatch stands) rfl

/-- Two requests find the slot empty and arm a timer each; the confirmation cancels one of them,
and the other will undo the address. -/
theorem not_guarded_race :
    ¬Guarded (program.machine.final (Program.idle (boot .dhcp .dhcp .dhcp))
      (.call (.setIpConfig 0 .static) :: .call (.setIpConfig 1 .static) ::
        (Program.resumes 0 (List.replicate 4 .done) ++
          Program.resumes 1 (List.replicate 4 .done) ++
          [.resume 0 .done, .resume 1 .done] ++
          Program.resumes 0 (List.replicate 2 .done) ++
          Program.resumes 1 (List.replicate 2 .done) ++
          .call (.confirmIpConfig 2) :: Program.resumes 2 (List.replicate 3 .done)))) := by
  intro guarded
  exact List.cons_ne_nil 0 [] (guarded.undisturbed ⟨rfl, rfl⟩)

end IpRevert

end PresenceLogger.Child
