import Mathlib
import Conveyor.Proofs.Events

/-!
# A cancellation that arrives during an executor call

The track's cancel flag is checked before and after each action, and an executor may set it
while it runs a command. What the stage then ends as depends on how the call comes back. A
call that answers with an exit status the runner reads is followed by the check, which finds
the flag and cancels the stage, and so does a call that raises the cancellation itself. A
call that raises anything else, whose named cancellation finds no such track, or whose status
does not read as a whole number unwinds before the check, and the stage fails.

Either way the stage stops at that call: it is the last call of the run, every later stage
is skipped, and the track ends as the stage did (`cancel_in_call_ends_stage`). `Reply.flags`
says when a reply sets the flag, `Reply.answers` when the call comes back with a status, and
`Reply.cancelsStage` when the stage ends cancelled.
-/

namespace Conveyor.Pipeline

open Conveyor.Env Conveyor.Workers

set_option autoImplicit false

/-! ## What a reply does to the cancel flag -/

/-- Whether a reply's named cancellation, when it has one, names a track that may be
cancelled by name; one that does not unwinds the call. -/
def Reply.namesLive (reply : Reply) (live : List String) : Bool :=
  match reply.cancelTrack with
  | some name => live.contains name
  | none => true

/-- Whether carrying out a reply's cancellations sets the cancel flag of `track`, when the
tracks in `live` may be cancelled by name. Its own cancellation does, and so does a named one
that names it; the cancellation of all tracks reaches it only when it may be cancelled by
name and the named cancellation before did not unwind. -/
def Reply.flags (reply : Reply) (track : String) (live : List String) : Bool :=
  reply.cancelOwn || (reply.cancelTrack == some track && live.contains track) ||
    (reply.cancelAll && reply.namesLive live && live.contains track)

/-- Whether a call comes back with an exit status the runner reads: its cancellations go
through and it returns a value that reads as a whole number. -/
def Reply.answers (reply : Reply) (live : List String) : Bool :=
  reply.namesLive live &&
    match reply.result with
    | .ok v => (Value.toInt v).toBool
    | .error _ => false

/-- Whether a call during which the track's flag gets set leaves its stage cancelled: it
answers with a status, so the check after it finds the flag, or it raises the cancellation
itself. -/
def Reply.cancelsStage (reply : Reply) (live : List String) : Bool :=
  reply.namesLive live &&
    match reply.result with
    | .ok v => (Value.toInt v).toBool
    | .error f => f.kind == .trackCancelled

theorem Reply.cancels_stage_of_answers {reply : Reply} {live : List String}
    (answers : reply.answers live = true) : reply.cancelsStage live = true := by
  obtain ⟨own, named, all, result⟩ := reply
  cases result <;> simp_all [Reply.answers, Reply.cancelsStage]

theorem Value.to_int_error_not_cancelled {v : Value} {f : Fault} (refused : Value.toInt v = .error f) :
    f.kind ≠ .trackCancelled := by
  cases v <;> simp only [Value.toInt] at refused <;> (repeat' split at refused) <;> cases refused <;>
    simp [Fault.value, Fault.type]

theorem run_cancel_named (name : String) (w : World) :
    (cancelNamed name).run.run w =
      if name ∈ w.live then (.ok (), { w with cancelled := w.cancelled ++ [name] })
      else (.error (Thrown.ofFault ⟨.keyError, Text.quote ("Unknown or finished track: " ++ name)⟩), w) := by
  unfold cancelNamed
  rw [run_bind, run_get]
  dsimp only
  by_cases live : name ∈ w.live
  · rw [if_pos (by simpa using live), if_pos live]
    rfl
  · rw [if_neg (by simpa using live), if_neg live]
    rfl

theorem run_cancel_if (own : Bool) (track : String) (w : World) :
    ((if own then cancel track else pure ()) : Running Unit).run.run w =
      (.ok (), { w with cancelled := if own then w.cancelled ++ [track] else w.cancelled }) := by
  cases own <;> rfl

theorem run_cancel_live_if (all : Bool) (w : World) :
    ((if all then cancelLive else pure ()) : Running Unit).run.run w =
      (.ok (), { w with cancelled := if all then w.cancelled ++ w.live else w.cancelled }) := by
  cases all <;> rfl

theorem run_apply_cancels (track : String) (reply : Reply) (w : World) :
    ((applyCancels track reply).run.run w).1.toBool = reply.namesLive w.live ∧
      (∀ t, ((applyCancels track reply).run.run w).1 = .error t → t.signal.kind = .keyError) ∧
      (track ∈ ((applyCancels track reply).run.run w).2.cancelled ↔
        track ∈ w.cancelled ∨ reply.flags track w.live = true) := by
  obtain ⟨own, named, all, result⟩ := reply
  unfold applyCancels
  rw [run_bind, run_cancel_if]
  dsimp only
  rw [run_bind]
  rcases named with _ | name
  · rw [run_pure]
    dsimp only
    rw [run_cancel_live_if]
    cases own <;> cases all <;> simp [Except.toBool, Reply.flags, Reply.namesLive]
  · rw [run_cancel_named]
    have named : (name = track ∧ track ∈ w.live) ↔ (track = name ∧ name ∈ w.live) := by
      constructor <;> rintro ⟨rfl, live⟩ <;> exact ⟨rfl, live⟩
    by_cases live : name ∈ w.live
    · rw [if_pos live]
      dsimp only
      rw [run_cancel_live_if]
      cases own <;> cases all <;> simp [Except.toBool, Reply.flags, Reply.namesLive, live, named]
    · rw [if_neg live]
      cases own <;> simp [Except.toBool, Reply.flags, Reply.namesLive, live, named, Thrown.ofFault,
        Signal.kind]

/-! ## One action -/

section Action

variable (r : Runner) (track : String) (worker : Worker) (stack : Stack) (path : String)
  (action : Action)

theorem run_execute_of_unresolved {f : Fault} (unresolved : stack.resolve r.ambient = .error f)
    (w : World) :
    (r.execute track worker stack path action).run.run w = (.error (Thrown.ofFault f), w) := by
  unfold Runner.execute
  rw [run_bind, unresolved]
  rfl

theorem run_execute_of_resolved {env : Environment} (resolved : stack.resolve r.ambient = .ok env)
    (w : World) :
    (r.execute track worker stack path action).run.run w =
      let c : Call := { track, path, argv := action.argv, cwd := worker.workspace, env }
      let carried := (applyCancels track (r.executor c)).run.run { w with calls := w.calls ++ [c] }
      (match carried.1 with
        | .ok () => (r.executor c).result.mapError Thrown.ofFault
        | .error t => .error t, carried.2) := by
  unfold Runner.execute
  rw [run_bind, resolved]
  dsimp only
  rw [run_pure]
  dsimp only
  rw [run_bind, run_modify]
  dsimp only
  rw [run_bind]
  rcases (applyCancels track _).run.run _ with ⟨_ | _, w₁⟩
  · rfl
  · cases (r.executor _).result <;> rfl

end Action

theorem World.Within.nothing_made {w w' : World} (within : World.Within (fun _ => False) w w') :
    w'.calls = w.calls := by
  obtain ⟨made, calls, none⟩ := within.calls
  rw [calls, List.eq_nil_iff_forall_not_mem.mpr none, List.append_nil]

theorem stopped_status_attach_of_fault (f : Fault) (o : Origin) :
    stoppedStatus (some ((Thrown.ofFault f).attach o)) =
      if f.kind == .trackCancelled then .cancelled else .failed := rfl

theorem is_cancelled_stage_stage_failed (name : String) (t : Thrown) :
    (Signal.stageFailed name t.signal).isCancelledStage = (stoppedStatus (some t) == .cancelled) := by
  show (t.signal.kind == .trackCancelled) =
    ((if t.signal.kind == .trackCancelled then StageStatus.cancelled else .failed) == .cancelled)
  cases t.signal.kind == .trackCancelled <;> rfl

section Quiet

variable {r : Runner} (quiet : r.observer.Quiet)
include quiet

theorem run_observe_if_quiet (handed : Prop) [Decidable handed] (hook : Hook) (event : StepEvent)
    (received : Option Thrown) (w : World) :
    ∃ events, ((if handed then r.observe hook event received else pure ()) : Running Unit).run.run w =
      (.ok (), { w with events }) := by
  split
  · exact ⟨_, run_observe_of_quiet quiet hook event received w⟩
  · exact ⟨w.events, rfl⟩

theorem run_call_action (track : String) (worker : Worker) (stack : Stack) (stagePath : String)
    (action : Action) (w : World) :
    ∃ outcome w₁, (r.callAction track worker stack stagePath action).run.run w = (outcome, w₁) ∧
      w₁.live = w.live ∧
      ((w₁.calls = w.calls ∧ ∃ t, outcome = .error t) ∨
        ∃ c, w₁.calls = w.calls ++ [c] ∧
          (track ∈ w₁.cancelled ↔ track ∈ w.cancelled ∨ (r.executor c).flags track w.live = true) ∧
          ((r.executor c).answers w.live = true → ∃ result, outcome = .ok result) ∧
          ((r.executor c).answers w.live = false → ∃ t, outcome = .error t ∧
            stoppedStatus (some t) = if (r.executor c).cancelsStage w.live then .cancelled else .failed)) := by
  unfold Runner.callAction
  rw [run_bind, run_try_catch]
  cases resolved : stack.resolve r.ambient with
  | error f =>
    rw [run_execute_of_unresolved r track worker stack _ action resolved]
    dsimp only
    rw [run_bind, run_observe_of_quiet quiet]
    exact ⟨_, _, rfl, rfl, .inl ⟨rfl, _, rfl⟩⟩
  | ok env =>
    rw [run_execute_of_resolved r track worker stack _ action resolved]
    dsimp only
    set c : Call := ⟨track, stagePath ++ "/" ++ action.name, action.argv, worker.workspace, env⟩
      with named
    have within := apply_cancels_confined (P := fun _ => False) track (r.executor c)
      { w with calls := w.calls ++ [c] }
    have unheard := apply_cancels_unheard track (r.executor c) { w with calls := w.calls ++ [c] }
    obtain ⟨goesThrough, keyError, flagged⟩ := run_apply_cancels track (r.executor c)
      { w with calls := w.calls ++ [c] }
    rcases carried : (applyCancels track (r.executor c)).run.run { w with calls := w.calls ++ [c] }
      with ⟨o, w₂⟩
    rw [carried] at within unheard goesThrough keyError flagged
    have calls₂ := within.nothing_made
    cases o with
    | error t =>
      obtain ⟨f, rfl⟩ := unheard.2
      have unnamed : (r.executor c).namesLive w.live = false := goesThrough.symm
      have kind : f.kind = .keyError := keyError _ rfl
      dsimp only
      rw [run_bind, run_observe_of_quiet quiet]
      refine ⟨_, _, rfl, within.live, .inr ⟨c, calls₂, flagged, fun answers => ?_,
        fun _ => ⟨_, rfl, ?_⟩⟩⟩
      · simp [Reply.answers, unnamed] at answers
      · rw [stopped_status_attach_of_fault, kind]
        simp [Reply.cancelsStage, unnamed]
    | ok u =>
      have named : (r.executor c).namesLive w.live = true := goesThrough.symm
      cases returned : (r.executor c).result with
      | error f =>
        dsimp only [Except.mapError]
        rw [run_bind, run_observe_of_quiet quiet]
        refine ⟨_, _, rfl, within.live, .inr ⟨c, calls₂, flagged, fun answers => ?_,
          fun _ => ⟨_, rfl, ?_⟩⟩⟩
        · simp [Reply.answers, returned] at answers
        · rw [stopped_status_attach_of_fault]
          simp [Reply.cancelsStage, named, returned]
      | ok v =>
        dsimp only [Except.mapError]
        rw [run_bind]
        cases read : Value.toInt v with
        | error f =>
          refine ⟨_, _, rfl, within.live, .inr ⟨c, calls₂, flagged, fun answers => ?_,
            fun _ => ⟨_, rfl, ?_⟩⟩⟩
          · simp [Reply.answers, returned, read, Except.toBool] at answers
          · have notCancel := Value.to_int_error_not_cancelled read
            simp [stoppedStatus, Thrown.ofFault, Signal.kind, notCancel, Reply.cancelsStage, returned,
              read, Except.toBool]
        | ok n =>
          dsimp only
          rw [run_pure]
          dsimp only
          rw [run_bind]
          obtain ⟨events, ended⟩ := run_observe_if_quiet quiet (n == 0) .finish
            (.finished (stagePath ++ "/" ++ action.name) [("type", .str "action"),
              ("name", .str action.name), ("path", .str (stagePath ++ "/" ++ action.name)),
              ("command", .str action.command), ("exit_code", .int n)]) none w₂
          rw [ended]
          refine ⟨_, _, rfl, within.live, .inr ⟨c, calls₂, flagged, fun _ => ⟨_, rfl⟩,
            fun answers => ?_⟩⟩
          simp [Reply.answers, named, returned, read, Except.toBool] at answers

theorem run_start_action_of_unflagged (track : String) (worker : Worker) (stack : Stack)
    (stagePath : String) (action : Action) {w : World} (unflagged : track ∉ w.cancelled) :
    ∃ outcome w₁, (r.startAction track worker stack stagePath action).run.run w = (outcome, w₁) ∧
      w₁.live = w.live ∧
      ((w₁.calls = w.calls ∧ ∃ t, outcome = .error t) ∨
        ∃ c, w₁.calls = w.calls ++ [c] ∧
          (track ∈ w₁.cancelled ↔ (r.executor c).flags track w.live = true) ∧
          ((r.executor c).answers w.live = true → ∃ result, outcome = .ok result) ∧
          ((r.executor c).answers w.live = false → ∃ t, outcome = .error t ∧
            stoppedStatus (some t) = if (r.executor c).cancelsStage w.live then .cancelled else .failed)) := by
  unfold Runner.startAction Runner.runAction Runner.openAction
  rw [run_bind, run_check_cancelled, if_neg unflagged]
  dsimp only
  rw [run_bind, run_observe_of_quiet quiet]
  dsimp only
  obtain ⟨outcome, w₁, ran, live, ends⟩ := run_call_action quiet track worker stack stagePath action
    { w with events := if r.observer.keeps then w.events ++ [.started (stagePath ++ "/" ++ action.name)
      [("node_type", .str "action"), ("command", .str action.command)]] else w.events }
  rw [ran]
  refine ⟨outcome, w₁, rfl, live, ?_⟩
  rcases ends with none | ⟨c, calls, flagged, answered, refused⟩
  · exact .inl none
  · exact .inr ⟨c, calls, flagged.trans (or_iff_right unflagged), answered, refused⟩

theorem run_actions_stop_at_flagging_call (track : String) (worker : Worker) (stack : Stack)
    (stagePath : String) (actions : List Action) (done : List ActionResult) {w : World}
    (unflagged : track ∉ w.cancelled) :
    ∃ results stopped w' made,
      (r.runActions track worker stack stagePath actions done).run.run w =
        (.ok (results, stopped), w') ∧
      w'.calls = w.calls ++ made ∧ w'.live = w.live ∧
      ∀ c ∈ made, (r.executor c).flags track w.live = true → made.getLast? = some c ∧
        ∃ t, stopped = some t ∧
          stoppedStatus (some t) = if (r.executor c).cancelsStage w.live then .cancelled else .failed := by
  induction actions generalizing done w with
  | nil => exact ⟨done, none, w, [], rfl, by simp, rfl, by simp⟩
  | cons action rest ih =>
    rw [Runner.runActions, run_bind, run_attempt]
    obtain ⟨outcome, w₁, ran, live₁, ends⟩ :=
      run_start_action_of_unflagged quiet track worker stack stagePath action unflagged
    rw [ran]
    dsimp only
    rcases ends with ⟨calls₁, t, rfl⟩ | ⟨c, calls₁, flagged, answered, refused⟩
    · -- no call was made, and the stage stops
      exact ⟨_, _, _, [], rfl, by simp [calls₁], live₁, by simp⟩
    by_cases flags : (r.executor c).flags track w.live = true
    · -- the flag was set during this call: the stage stops here either way
      have lastCall : ∀ c' ∈ [c], [c].getLast? = some c' := by simp
      cases answers : (r.executor c).answers w.live
      · obtain ⟨t, rfl, status⟩ := refused answers
        refine ⟨_, _, _, [c], rfl, calls₁, live₁, fun c' mem _ => ⟨lastCall c' mem, t, rfl, ?_⟩⟩
        rw [List.mem_singleton.mp mem, status]
      · obtain ⟨result, rfl⟩ := answered answers
        dsimp only
        rw [run_bind, run_attempt, run_settle_kept quiet, if_pos (flagged.mpr flags)]
        refine ⟨_, _, _, [c], rfl, calls₁, live₁, fun c' mem _ => ⟨lastCall c' mem, _, rfl, ?_⟩⟩
        rw [List.mem_singleton.mp mem, Reply.cancels_stage_of_answers answers]
        rfl
    · -- the flag is still unset: the stage stops on a failure, or goes on
      have stillUnset : track ∉ w₁.cancelled := fun set => flags (flagged.mp set)
      have notThis : ∀ c' ∈ [c], (r.executor c').flags track w.live = true → False := by
        intro c' mem flags'
        rw [List.mem_singleton.mp mem] at flags'
        exact flags flags'
      cases outcome with
      | error t => exact ⟨_, _, _, [c], rfl, calls₁, live₁, fun c' mem flags' => (notThis c' mem flags').elim⟩
      | ok result =>
        dsimp only
        rw [run_bind, run_attempt, run_settle_kept quiet, if_neg stillUnset]
        by_cases exited : result.exitCode ≠ 0
        · rw [if_pos exited]
          exact ⟨_, _, _, [c], rfl, calls₁, live₁, fun c' mem flags' => (notThis c' mem flags').elim⟩
        · rw [if_neg exited]
          dsimp only
          obtain ⟨results, stopped, w', made, run, calls', live', stops⟩ := ih (done ++ [result]) stillUnset
          refine ⟨results, stopped, w', c :: made, run, by rw [calls', calls₁, List.append_assoc]; rfl,
            live'.trans live₁, fun c' mem flags' => ?_⟩
          rcases List.mem_cons.mp mem with rfl | later
          · exact (flags flags').elim
          · rw [live₁] at stops
            obtain ⟨last, stoppedThere⟩ := stops c' later flags'
            exact ⟨by rw [List.getLast?_cons, last]; rfl, stoppedThere⟩

theorem run_stage_stop_at_flagging_call (track : Track) (worker : Worker) (stack : Stack)
    (stage : Stage) {w : World} (unflagged : track.name ∉ w.cancelled) :
    ∃ result failure w' made, (r.runStage track worker stack stage).run.run w =
        (.ok (result, failure), w') ∧ result.name = stage.name ∧
      w'.calls = w.calls ++ made ∧ w'.live = w.live ∧
      (∀ c ∈ made, ∃ a ∈ stage.actions, c.path = track.name ++ "/" ++ stage.name ++ "/" ++ a.name) ∧
      (failure = none → result.status = .succeeded ∧ track.name ∉ w'.cancelled) ∧
      ∀ c ∈ made, (r.executor c).flags track.name w.live = true → made.getLast? = some c ∧
        ∃ cause, failure = some cause ∧ cause.isCancelledStage = (r.executor c).cancelsStage w.live ∧
          result.status = if (r.executor c).cancelsStage w.live then .cancelled else .failed := by
  obtain ⟨result, failure, w', ran, named, unfailed, -⟩ :=
    run_stage_of_quiet quiet track worker stack stage unflagged
  have within := run_stage_confined r worker stack track stage w
  rw [ran] at within
  obtain ⟨made, calls, forStage⟩ := within.calls
  refine ⟨result, failure, w', made, ran, named, calls, within.live, fun c mem => ?_, unfailed, ?_⟩
  · obtain ⟨a, inStage, env, -, rfl⟩ := forStage c mem
    exact ⟨a, inStage, rfl⟩
  have opened : ∃ events, (r.openStage track stack stage).run.run w = (.ok (), { w with events }) :=
    ⟨_, run_observe_of_quiet quiet _ _ _ w⟩
  obtain ⟨events, opened⟩ := opened
  unfold Runner.runStage at ran
  rw [run_bind, opened] at ran
  dsimp only at ran
  rw [run_bind] at ran
  obtain ⟨results, stopped, w₂, made₂, ranActions, calls₂, live₂, stops⟩ :=
    run_actions_stop_at_flagging_call quiet track.name worker (stack.push (overlayOf stage.env)).2
      (track.name ++ "/" ++ stage.name) stage.actions [] (w := { w with events }) unflagged
  rw [ranActions] at ran
  dsimp only at ran stops
  have closedWithin := close_stage_confined (P := fun _ => False) r track stage results stopped w₂
  rw [ran] at closedWithin
  have sameCalls : made₂ = made := by
    have joined : w.calls ++ made₂ = w.calls ++ made := by
      rw [← calls, ← calls₂, closedWithin.nothing_made]
    exact List.append_cancel_left joined
  subst sameCalls
  intro c mem flags
  obtain ⟨last, t, rfl, status⟩ := stops c mem flags
  obtain ⟨w₃, closed, -⟩ := run_close_stage_some quiet track stage results t w₂
  rw [closed] at ran
  cases ran
  refine ⟨last, _, rfl, ?_, ?_⟩
  · rw [is_cancelled_stage_stage_failed, status]
    cases (r.executor c).cancelsStage w.live <;> rfl
  · rw [stopped_status_some, status]

theorem run_stages_stop_at_flagging_call (track : Track) (worker : Worker) (stack : Stack)
    (stages : List Stage) (done : List StageResult) (w : World) :
    ∃ (all : List StageResult) (ending : StagesEnd) (w' : World) (made : List Call),
      (r.runStages track worker stack stages done).run.run w =
        (.ok (all, ending), w') ∧
      w'.calls = w.calls ++ made ∧ w'.live = w.live ∧
      ∀ c ∈ made, (r.executor c).flags track.name w.live = true → made.getLast? = some c ∧
        ∃ (earlier : List Stage) (stage : Stage) (later : List Stage),
          stages = earlier ++ stage :: later ∧
          (∃ a ∈ stage.actions, c.path = track.name ++ "/" ++ stage.name ++ "/" ++ a.name) ∧
          ∃ (ran : List StageResult) (stopped : StageResult) (cause : Signal),
            all = done ++ ran ++ stopped :: later.map (fun s => StageResult.skipped s.name) ∧
            ran.map (·.name) = earlier.map (·.name) ∧ (∀ s ∈ ran, s.status = .succeeded) ∧
            stopped.name = stage.name ∧
            stopped.status = (if (r.executor c).cancelsStage w.live then .cancelled else .failed) ∧
            ending = .failed stage.name cause ∧
            cause.isCancelledStage = (r.executor c).cancelsStage w.live := by
  induction stages generalizing done w with
  | nil => exact ⟨done, .completed, w, [], rfl, by simp, rfl, by simp⟩
  | cons stage rest ih =>
    rw [Runner.runStages, run_bind, run_is_cancelled]
    dsimp only
    by_cases flagged : track.name ∈ w.cancelled
    · -- cancelled before the stage: no call is made
      rw [if_pos (by simpa using flagged)]
      exact ⟨_, _, _, [], rfl, by simp, rfl, by simp⟩
    rw [if_neg (by simpa using flagged), run_bind]
    obtain ⟨result, failure, w₁, made₁, ran, named, calls₁, live₁, paths, unfailed, stops₁⟩ :=
      run_stage_stop_at_flagging_call quiet track worker stack stage flagged
    rw [run_catch_halt_of_ok ran]
    dsimp only
    cases failure with
    | none =>
      obtain ⟨succeeded, -⟩ := unfailed rfl
      obtain ⟨all, ending, w', made₂, run, calls₂, live₂, stops₂⟩ := ih (done ++ [result]) w₁
      rw [live₁] at stops₂
      refine ⟨all, ending, w', made₁ ++ made₂, run, by rw [calls₂, calls₁, List.append_assoc],
        live₂.trans live₁, fun c mem flags => ?_⟩
      rcases List.mem_append.mp mem with inStage | later
      · obtain ⟨-, cause, stoppedSome, -⟩ := stops₁ c inStage flags
        cases stoppedSome
      obtain ⟨last, earlier, stage', laterStages, split, path, ran', stopped, cause, allEq, names,
        ranSucceeded, stoppedRest⟩ := stops₂ c later flags
      refine ⟨by rw [List.getLast?_append_of_ne_nil _ (List.ne_nil_of_mem later), last],
        stage :: earlier, stage', laterStages, by rw [split, List.cons_append], path,
        result :: ran', stopped, cause, by rw [allEq]; simp, by simp [named, names], ?_, stoppedRest⟩
      intro s mem
      rcases List.mem_cons.mp mem with rfl | later
      · exact succeeded
      · exact ranSucceeded s later
    | some cause =>
      refine ⟨_, _, _, made₁, rfl, calls₁, live₁, fun c mem flags => ?_⟩
      obtain ⟨last, cause', same, isCancelled, status⟩ := stops₁ c mem flags
      cases same
      exact ⟨last, [], stage, rest, rfl, paths c mem, [], result, cause, by simp, rfl, by simp,
        named, status, rfl, isCancelled⟩

end Quiet

/-- Under an observer whose hooks never fail, take a run of a track that was granted a
worker, and a call of that run during which the track's cancel flag got set: by the reply's
own cancellation, by a cancellation naming the track, or by one of every track that may be
cancelled by name. That call is the run's last. It was made for an action of some stage,
and every stage before that one succeeded. That stage ends cancelled when the call answered
with an exit status the runner reads or raised a cancellation, and failed when it raised
anything else, when its named cancellation found no such track, or when its status did not
read as a whole number; every later stage is skipped, and the track ends as that stage did. -/
theorem cancel_in_call_ends_stage (r : Runner) (track : Track) {w : World} {worker : Worker}
    {pool : Pool} (quiet : r.observer.Quiet)
    (acquired : w.pool.acquire r.root (.str track.selector) = .ok (worker, pool)) :
    ∃ result w' made, (r.runTrack track).run.run w = (.ok result, w') ∧
      w'.calls = w.calls ++ made ∧
      ∀ c ∈ made, (r.executor c).flags track.name w.live = true →
        made.getLast? = some c ∧
        ∃ earlier stage later, track.stages = earlier ++ stage :: later ∧
          (∃ a ∈ stage.actions, c.path = track.name ++ "/" ++ stage.name ++ "/" ++ a.name) ∧
          ∃ ran stopped,
            result.stages = ran ++ stopped :: later.map (fun s => StageResult.skipped s.name) ∧
            ran.map (·.name) = earlier.map (·.name) ∧ (∀ s ∈ ran, s.status = .succeeded) ∧
            stopped.name = stage.name ∧
            stopped.status = (if (r.executor c).cancelsStage w.live then .cancelled else .failed) ∧
            result.status = (if (r.executor c).cancelsStage w.live then .cancelled else .failed) := by
  rw [run_run_track_of_acquired r track acquired]
  have opened : ∃ events, (r.openTrack track worker).run.run { w with pool } =
      (.ok (), { w with pool, events }) :=
    ⟨_, run_observe_of_quiet quiet _ _ _ _⟩
  obtain ⟨events, opened⟩ := opened
  obtain ⟨all, ending, w₁, made, ran, calls, -, stops⟩ :=
    run_stages_stop_at_flagging_call quiet track worker (r.trackStack track) track.stages []
      { w with pool, events }
  rw [run_drive_track_of_opened r opened, ran]
  dsimp only at stops ⊢
  obtain ⟨answer, -, closedCalls, -, -⟩ :=
    run_close_track r track worker (.ok (TrackResult.ofStages track worker all ending)) w₁
  rw [quiet] at answer
  refine ⟨TrackResult.ofStages track worker all ending, _, made, Prod.ext answer rfl,
    by rw [closedCalls, calls], fun c mem flags => ?_⟩
  obtain ⟨last, earlier, stage, later, split, path, ran', stopped, cause, allEq, names, succeeded,
    stoppedName, stoppedStatus, endingEq, isCancelled⟩ := stops c mem flags
  refine ⟨last, earlier, stage, later, split, path, ran', stopped,
    by rw [TrackResult.of_stages_stages, allEq, List.nil_append], names, succeeded, stoppedName,
    stoppedStatus, ?_⟩
  rw [endingEq]
  unfold TrackResult.ofStages
  dsimp only
  rw [isCancelled]

def twoStageTrack : Track :=
  ⟨"t", "linux", [⟨"s", [⟨"a", ["a"]⟩], []⟩, ⟨"s2", [⟨"b", ["b"]⟩], []⟩], []⟩

def cancelThenRaise : Runner :=
  ⟨fun _ => { cancelOwn := true, result := .error ⟨.runtimeError, "boom"⟩ }, {}, [], ":", ""⟩

/-- The executor that cancels and raises, on the two-stage track: its first call sets the flag
and is the run's last, and the stages and track end as the reply decides. -/
theorem cancel_in_call_ends_stage_raising_executor :
    cancelThenRaise.observer.Quiet ∧
      ({ workers := [⟨"w1", "w1", ["linux"]⟩] } : Pool).acquire "" (.str "linux") =
        .ok (⟨"w1", "w1", ["linux"]⟩,
          { workers := [⟨"w1", "w1", ["linux"]⟩], busy := ["w1"], directories := ["w1"] }) ∧
      ∃ result w' made, (cancelThenRaise.runTrack twoStageTrack).run.run
          { pool := { workers := [⟨"w1", "w1", ["linux"]⟩] } } = (.ok result, w') ∧
        w'.calls = [] ++ made ∧
        ∀ c ∈ made, (cancelThenRaise.executor c).flags "t" [] = true →
          made.getLast? = some c ∧
          ∃ earlier stage later, twoStageTrack.stages = earlier ++ stage :: later ∧
            (∃ a ∈ stage.actions, c.path = "t" ++ "/" ++ stage.name ++ "/" ++ a.name) ∧
            ∃ ran stopped,
              result.stages = ran ++ stopped :: later.map (fun s => StageResult.skipped s.name) ∧
              ran.map (·.name) = earlier.map (·.name) ∧ (∀ s ∈ ran, s.status = .succeeded) ∧
              stopped.name = stage.name ∧
              stopped.status =
                (if (cancelThenRaise.executor c).cancelsStage [] then .cancelled else .failed) ∧
              result.status =
                (if (cancelThenRaise.executor c).cancelsStage [] then .cancelled else .failed) :=
  have quiet : cancelThenRaise.observer.Quiet := fun _ _ _ => rfl
  ⟨quiet, Pool.acquire_single_idle, cancel_in_call_ends_stage cancelThenRaise twoStageTrack quiet
    Pool.acquire_single_idle⟩

/-- The executor's call sets the track's cancel flag and then raises: the flag is set when the
run ends, yet the first stage fails, the second is skipped and the track fails. -/
theorem cancel_then_raise_fails_track :
    ∃ result w', (cancelThenRaise.runTrack twoStageTrack).run.run
        { pool := { workers := [⟨"w1", "w1", ["linux"]⟩] } } = (.ok result, w') ∧
      w'.cancelled = ["t"] ∧ result.stages.map (·.status) = [.failed, .skipped] ∧
      result.status = .failed := by
  rw [run_run_track_of_acquired _ _ Pool.acquire_single_idle]
  exact ⟨_, _, rfl, rfl, rfl, rfl⟩

end Conveyor.Pipeline
