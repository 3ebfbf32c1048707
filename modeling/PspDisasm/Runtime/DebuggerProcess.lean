import Mathlib.Data.List.Basic

namespace PspDisasm

inductive Signal
  | terminate
  | kill
deriving DecidableEq

/-- A `Popen` object: the exit code once a look at the process has seen its end, what the looks to come will see, and the
signals that were sent. Behind the last of `sightings` the process is seen running. -/
structure DebuggerProcess where
  returncode : Option Int
  sightings : List (Option Int)
  signals : List Signal
deriving DecidableEq

namespace DebuggerProcess

/-- The object that `Popen` returns. -/
def started (sightings : List (Option Int)) : DebuggerProcess := ⟨none, sightings, []⟩

/-- `poll`. An end that was seen once is not looked for again. -/
def poll (process : DebuggerProcess) : DebuggerProcess :=
  match process.returncode with
  | some _ => process
  | none => { process with returncode := process.sightings.headD none, sightings := process.sightings.tail }

/-- `wait` with a time limit, which raises `TimeoutExpired` where it leaves no exit code. -/
def wait (process : DebuggerProcess) : DebuggerProcess := process.poll

/-- `send_signal`: a process whose end has been seen gets no signal. -/
def sendSignal (signal : Signal) (process : DebuggerProcess) : DebuggerProcess :=
  if process.poll.returncode.isSome then process.poll
  else { process.poll with signals := process.poll.signals ++ [signal] }

/-- `_terminate_process`. -/
def terminateProcess (process : DebuggerProcess) : DebuggerProcess :=
  if process.poll.returncode.isSome then process.poll
  else
    let waited := (process.poll.sendSignal .terminate).wait
    if waited.returncode.isSome then waited else (waited.sendSignal .kill).wait

/-- The process has ended, or was told to and then killed. -/
structure Stopped (process later : DebuggerProcess) : Prop where
  signals : ∃ sent ∈ [[], [Signal.terminate], [Signal.terminate, Signal.kill]], later.signals = process.signals ++ sent ∧
    (later.returncode.isSome ∨ sent = [.terminate, .kill])
  ended : process.returncode.isSome → later = process

section Laws
variable {process : DebuggerProcess}

@[simp] theorem poll_signals : process.poll.signals = process.signals := by
  unfold poll
  split <;> rfl

theorem poll_ended (ended : process.returncode.isSome) : process.poll = process := by
  obtain ⟨code, same⟩ := Option.isSome_iff_exists.mp ended
  rw [poll, same]

theorem sendSignal_ended {signal : Signal} (ended : process.poll.returncode.isSome) : process.sendSignal signal = process.poll :=
  if_pos ended

theorem sendSignal_signals {signal : Signal} (running : ¬process.poll.returncode.isSome) :
    (process.sendSignal signal).signals = process.signals ++ [signal] := by
  rw [sendSignal, if_neg running]
  exact congrArg (· ++ [signal]) poll_signals

/-- A signal is sent, or the end of the process is seen instead. -/
theorem wait_sendSignal (process : DebuggerProcess) (signal : Signal) : ((process.sendSignal signal).wait.signals = process.signals ++ [signal]) ∨
    (process.sendSignal signal).wait.signals = process.signals ∧ (process.sendSignal signal).wait.returncode.isSome := by
  by_cases ended : process.poll.returncode.isSome
  · right
    rw [sendSignal_ended ended, wait, poll_ended ended]
    exact ⟨poll_signals, ended⟩
  · left
    rw [wait, poll_signals, sendSignal_signals ended]

/-- `_terminate_process` leaves a process that has ended or was killed, and sends nothing to one that had ended before. -/
theorem terminateProcess_stopped : process.Stopped process.terminateProcess := by
  unfold terminateProcess
  constructor
  · split
    case isTrue ended => exact ⟨[], by simp, by simp, .inl ended⟩
    case isFalse =>
      dsimp only
      have first := wait_sendSignal process.poll .terminate
      rw [poll_signals] at first
      split
      case isTrue ended =>
        rcases first with sent | ⟨quiet, _⟩
        · exact ⟨[.terminate], by simp, sent, .inl ended⟩
        · exact ⟨[], by simp, by rw [quiet, List.append_nil], .inl ended⟩
      case isFalse running =>
        have sent := first.resolve_right fun quiet => running quiet.2
        rcases wait_sendSignal (process.poll.sendSignal .terminate).wait .kill with killed | ⟨quiet, ended⟩
        · exact ⟨[.terminate, .kill], by simp, by rw [killed, sent, List.append_assoc]; rfl, .inr rfl⟩
        · exact ⟨[.terminate], by simp, by rw [quiet, sent], .inl ended⟩
  · intro ended
    rw [if_pos ((poll_ended ended).symm ▸ ended), poll_ended ended]

end Laws

end DebuggerProcess

end PspDisasm
