import Conveyor.Proofs.Containment

/-!
# What unwinds a track's run, and what the pipeline makes of it

A track's run unwinds only when its workspace cannot be made, when a hook at its own path or
a stage's path raises a signal that does not halt the track, or when the hook of its end
raises anything (`run_track_unwinds`). The pipeline records such a run as a crashed result of
its member and goes on with the next track (`run_all_crash_contract`).
-/

namespace Conveyor.Pipeline

open Conveyor.Env Conveyor.Text Conveyor.Workers

set_option autoImplicit false

variable {α β : Type}

def Track.OuterPath (track : Track) (p : String) : Prop :=
  p = track.name ∨ ∃ s ∈ track.stages, p = track.name ++ "/" ++ s.name

/-- An event of a track's run: at the track's own path, handing no signal, or an event of
one of its stages' runs. -/
def TrackEvent (track : Track) (e : StepEvent) : Prop :=
  (e.path = track.name ∧ e.received = none) ∨
    ∃ s ∈ track.stages, StageEvent (track.name ++ "/" ++ s.name) s.name e

/-- An event of a track's body: its start at the track's own path, or an event of one of its
stages' runs. -/
def BodyEvent (track : Track) (e : StepEvent) : Prop :=
  (e.path = track.name ∧ e.hook = .start ∧ e.received = none) ∨
    ∃ s ∈ track.stages, StageEvent (track.name ++ "/" ++ s.name) s.name e

theorem BodyEvent.track_event {track : Track} {e : StepEvent} (event : BodyEvent track e) :
    TrackEvent track e := by
  rcases event with ⟨atTrack, -, plain⟩ | inStage
  · exact .inl ⟨atTrack, plain⟩
  · exact .inr inStage

theorem BodyEvent.not_end {track : Track} {e : StepEvent} (event : BodyEvent track e) :
    ¬ (e.hook = .finish ∧ e.path = track.name) := by
  rintro ⟨finish, atTrack⟩
  rcases event with ⟨-, start, -⟩ | ⟨s, -, stageEvent⟩
  · rw [start] at finish
    cases finish
  · exact stageEvent.path_ne atTrack

theorem drive_track_heard (r : Runner) (track : Track) (worker : Worker)
    (slashless : ∀ s ∈ track.stages, '/' ∉ s.name.toList) :
    Heard r (BodyEvent track) track.OuterPath (fun t => t.signal.haltsTrack = false)
      (r.driveTrack track worker) := by
  unfold Runner.driveTrack Runner.openTrack
  have stages : Heard r (BodyEvent track) track.OuterPath (fun t => t.signal.haltsTrack = false)
      (r.runStages track worker (r.trackStack track) track.stages []) :=
    (run_stages_heard r track worker _ track.stages slashless []).weaken (fun e event => .inr event)
      fun e found => by
        obtain ⟨s, _, event⟩ := found
        exact (or_iff_right event.path_ne).symm
  refine Heard.bind (Heard.observe _ (.inl ⟨rfl, rfl, rfl⟩) (.inl rfl)).catch_halt fun opened => ?_
  rcases opened with signal | ⟨⟩
  · exact Heard.pure _
  · exact Heard.bind stages fun _ => Heard.pure _

theorem close_track_events (r : Runner) (track : Track) (worker : Worker)
    (outcome : Except Thrown TrackResult) (w : World) :
    ∃ e, e.path = track.name ∧ e.hook = .finish ∧ e.received = none ∧
      ((r.closeTrack track worker outcome).run.run w).2.events = w.events ++ r.observer.kept [e] := by
  unfold Runner.closeTrack Observer.kept
  rw [run_bind, run_observe]
  cases r.observer.keeps with
  | false =>
    cases r.observer.raises? .finish _ none <;> cases outcome <;>
      exact ⟨.finished track.name [], rfl, rfl, rfl, (List.append_nil _).symm⟩
  | true =>
    cases r.observer.raises? .finish _ none <;> cases outcome <;>
      exact ⟨.finished track.name _, rfl, rfl, rfl, rfl⟩

theorem Observer.keeps_of_raises {o : Observer} {hook : Hook} {path : String}
    {received : Option Thrown} {t : Thrown} (raised : o.raises? hook path received = some t) :
    o.keeps = true := by
  unfold Observer.raises? at raised
  split at raised
  · assumption
  · cases raised

theorem Observer.eq_of_mem_kept {o : Observer} {e e' : StepEvent} (mem : e' ∈ o.kept [e]) : e' = e := by
  unfold Observer.kept at mem
  split at mem
  · exact List.mem_singleton.mp mem
  · cases mem

/-- Whether the hook an event of a track's run is handed to raises `t` out of the run: the
track's end hook lets anything out, every other hook only a signal that does not halt the
track. -/
def Observer.Escapes (o : Observer) (track : Track) (e : StepEvent) (t : Thrown) : Prop :=
  o.raises? e.hook e.path e.received = some t ∧
    ((e.hook = .finish ∧ e.path = track.name) ∨ t.signal.haltsTrack = false)

theorem run_track_unwinds_of_acquired (r : Runner) (track : Track)
    (slashless : ∀ s ∈ track.stages, '/' ∉ s.name.toList) {w : World} {worker : Worker}
    {pool : Pool} (acquired : w.pool.acquire r.root (.str track.selector) = .ok (worker, pool)) :
    ∃ E, ((r.runTrack track).run.run w).2.events = w.events ++ E ∧ (∀ e ∈ E, TrackEvent track e) ∧
      ((∃ t, ((r.runTrack track).run.run w).1 = .error t) ↔
        ∃ e ∈ E, track.OuterPath e.path ∧ ∃ t, r.observer.Escapes track e t) ∧
      ∀ t, ((r.runTrack track).run.run w).1 = .error t →
        ∃ e ∈ E, track.OuterPath e.path ∧ r.observer.Escapes track e t := by
  rw [run_run_track_of_acquired r track acquired]
  obtain ⟨E, events, handed, unwinds⟩ := drive_track_heard r track worker slashless { w with pool }
  generalize (r.driveTrack track worker).run.run { w with pool } = body at events unwinds
  obtain ⟨outcome, w₁⟩ := body
  dsimp only at events unwinds ⊢
  obtain ⟨e, atTrack, hook, plain, closing⟩ := close_track_events r track worker outcome w₁
  have ended := (run_close_track r track worker outcome w₁).1
  have ending : r.observer.raises? e.hook e.path e.received = r.observer.raises? .finish track.name none := by
    rw [hook, atTrack, plain]
  refine ⟨E ++ r.observer.kept [e], by rw [closing, events, List.append_assoc], fun e' mem => ?_, ?_⟩
  · rcases List.mem_append.mp mem with body | last
    · exact (handed e' body).track_event
    · rw [Observer.eq_of_mem_kept last]
      exact .inl ⟨atTrack, plain⟩
  have bodyEscapes : ∀ e' ∈ E, ∀ t, r.observer.Escapes track e' t →
      r.observer.raises? e'.hook e'.path e'.received = some t ∧ t.signal.haltsTrack = false := by
    rintro e' mem t ⟨raised, byEnd | goesOn⟩
    · exact absurd byEnd (handed e' mem).not_end
    · exact ⟨raised, goesOn⟩
  cases finishing : r.observer.raises? .finish track.name none with
  | some t' =>
    rw [finishing] at ended
    have kept : r.observer.kept [e] = [e] := by
      simp [Observer.kept, Observer.keeps_of_raises finishing]
    have last : e ∈ E ++ r.observer.kept [e] := by simp [kept]
    have escapes : r.observer.Escapes track e t' :=
      ⟨by rw [ending, finishing], .inl ⟨hook, atTrack⟩⟩
    refine ⟨⟨fun _ => ⟨e, last, .inl atTrack, t', escapes⟩, fun _ => ⟨t', ended⟩⟩, fun t unwound => ?_⟩
    rw [ended] at unwound
    cases unwound
    exact ⟨e, last, .inl atTrack, escapes⟩
  | none =>
    rw [finishing] at ended
    dsimp only at ended
    rw [ended]
    have endQuiet : ∀ e' ∈ r.observer.kept [e], r.observer.raises? e'.hook e'.path e'.received = none := by
      intro e' mem
      rw [Observer.eq_of_mem_kept mem, ending, finishing]
    refine ⟨⟨?_, ?_⟩, ?_⟩
    · rintro ⟨t, unwound⟩
      obtain ⟨e', mem, outer, raised, goesOn⟩ := (unwinds t).mp unwound
      exact ⟨e', List.mem_append_left _ mem, outer, t, raised, .inr goesOn⟩
    · rintro ⟨e', mem, outer, t, escapes⟩
      rcases List.mem_append.mp mem with body | last
      · exact ⟨t, (unwinds t).mpr ⟨e', body, outer, bodyEscapes e' body t escapes⟩⟩
      · have quiet := endQuiet e' last
        rw [escapes.1] at quiet
        cases quiet
    · intro t unwound
      obtain ⟨e', mem, outer, raised, goesOn⟩ := (unwinds t).mp unwound
      exact ⟨e', List.mem_append_left _ mem, outer, raised, .inr goesOn⟩

theorem run_track_unwinds (r : Runner) (track : Track)
    (slashless : ∀ s ∈ track.stages, '/' ∉ s.name.toList) (w : World) :
    ∃ E, ((r.runTrack track).run.run w).2.events = w.events ++ E ∧ (∀ e ∈ E, TrackEvent track e) ∧
      ((∃ t, ((r.runTrack track).run.run w).1 = .error t) ↔
        (∃ f, w.pool.acquire r.root (.str track.selector) = .error (.workspace f)) ∨
          ∃ e ∈ E, track.OuterPath e.path ∧ ∃ t, r.observer.Escapes track e t) ∧
      ∀ t, ((r.runTrack track).run.run w).1 = .error t →
        (∃ f, w.pool.acquire r.root (.str track.selector) = .error (.workspace f) ∧ t = .ofFault f) ∨
          ∃ e ∈ E, track.OuterPath e.path ∧ r.observer.Escapes track e t := by
  rcases acquired : w.pool.acquire r.root (.str track.selector) with refusal | ⟨worker, pool⟩
  · -- without a worker the run hands no event
    cases refusal with
    | unavailable m | cancelled m =>
      obtain ⟨result, ran⟩ : ∃ result, (r.runTrack track).run.run w = (.ok result, w) :=
        ⟨_, by unfold Runner.runTrack; rw [run_bind, run_claim_worker, acquired]; rfl⟩
      refine ⟨[], by rw [ran, List.append_nil], by simp, ?_, ?_⟩ <;> simp [ran]
    | workspace f =>
      have ran : (r.runTrack track).run.run w = (.error (.ofFault f), w) := by
        unfold Runner.runTrack
        rw [run_bind, run_claim_worker, acquired]
      refine ⟨[], by rw [ran, List.append_nil], by simp, ?_, ?_⟩ <;> simp [ran]
    | selector f => exact absurd acquired (Pool.acquire_str_ne_selector _ _ _ _)
  · obtain ⟨E, events, handed, unwinds, unwound⟩ := run_track_unwinds_of_acquired r track slashless acquired
    refine ⟨E, events, handed, ?_, fun t escaped => .inr (unwound t escaped)⟩
    simpa using unwinds

/-! ## What the pipeline records for a run that unwound -/

theorem StepEvent.hook_of_received {e : StepEvent} {t : Thrown} (handed : e.received = some t) :
    e.hook = .failure := by
  cases e with
  | failed => rfl
  | started => cases handed
  | finished => cases handed

theorem TrackEvent.stage_of_received {track : Track} {e : StepEvent} {t : Thrown}
    (slashless : ∀ s ∈ track.stages, '/' ∉ s.name.toList) (event : TrackEvent track e)
    (outer : track.OuterPath e.path) (handed : e.received = some t) :
    ∃ s ∈ track.stages, e.path = track.name ++ "/" ++ s.name ∧
      t.origin = some ⟨track.name ++ "/" ++ s.name, "stage", s.name⟩ ∧
      t.signal.isCancelledStage = true := by
  rcases event with ⟨-, plain⟩ | ⟨s, mem, stageEvent⟩
  · rw [plain] at handed
    cases handed
  · rcases stageEvent with ⟨atStage, reports⟩ | ⟨name, atAction⟩
    · obtain ⟨origin, cancelled⟩ := reports t handed
      exact ⟨s, mem, atStage, origin, cancelled⟩
    · -- an action's path is neither the track's nor a stage's
      exfalso
      rcases outer with atTrack | ⟨s', mem', atOther⟩
      · exact StageEvent.path_ne (.inr ⟨name, atAction⟩ : StageEvent _ s.name e) atTrack
      · exact below_stage_ne (slashless s' mem') (atAction.symm.trans atOther)

theorem TrackResult.crashed_failed_stage_of_none (track : Track) {t : Thrown} (origin : t.origin = none) :
    (TrackResult.crashed track t).failedStage = none := by
  unfold TrackResult.crashed
  rw [origin]

theorem TrackResult.crashed_failed_stage_of_stage {track : Track} {stage : Stage} {t : Thrown}
    (trackSlashless : '/' ∉ track.name.toList) (stageSlashless : '/' ∉ stage.name.toList)
    (origin : t.origin = some ⟨track.name ++ "/" ++ stage.name, "stage", stage.name⟩) :
    (TrackResult.crashed track t).failedStage = some stage.name := by
  unfold TrackResult.crashed
  rw [origin]
  dsimp only
  rw [path_segments_stage trackSlashless stageSlashless]
  rfl

theorem run_run_member (r : Runner) (track : Track) (w : World) :
    (r.runMember track).run.run w =
      (.ok (match ((r.runTrack track).run.run w).1 with
        | .ok result => result
        | .error t => TrackResult.crashed track t), ((r.runTrack track).run.run w).2) := by
  unfold Runner.runMember
  rw [run_attempt_bind]
  cases ((r.runTrack track).run.run w).1 <;> rfl

/-- What the pipeline makes of the run of a track from a world `w`, with `E` the events the
run hands its observer. -/
structure Runner.CrashContract (r : Runner) (track : Track) (w : World) (E : List StepEvent) :
    Prop where
  events : ((r.runTrack track).run.run w).2.events = w.events ++ E
  /-- The run unwinds exactly when the workspace cannot be made, the track's end hook fails,
  or a hook at the track's start or at a stage's path raises a signal that does not halt the
  track; a hook failing at an action's path never unwinds it. -/
  unwinds_iff : (∃ t, ((r.runTrack track).run.run w).1 = .error t) ↔
    (∃ f, w.pool.acquire r.root (.str track.selector) = .error (.workspace f)) ∨
      ∃ e ∈ E, track.OuterPath e.path ∧ ∃ t, r.observer.Escapes track e t
  /-- It unwinds with the workspace's fault or with what such a hook raised. -/
  unwound_by : ∀ t, ((r.runTrack track).run.run w).1 = .error t →
    (∃ f, w.pool.acquire r.root (.str track.selector) = .error (.workspace f) ∧ t = .ofFault f) ∨
      ∃ e ∈ E, track.OuterPath e.path ∧ r.observer.Escapes track e t
  /-- The pipeline member returns all the same: the track's result, or the crashed one. -/
  returned : ∀ result, ((r.runTrack track).run.run w).1 = .ok result →
    (r.runMember track).run.run w = (.ok result, ((r.runTrack track).run.run w).2)
  recorded : ∀ t, ((r.runTrack track).run.run w).1 = .error t →
    (r.runMember track).run.run w = (.ok (TrackResult.crashed track t), ((r.runTrack track).run.run w).2)
  /-- A crashed result is failed, with no stages and no worker, its error the signal's kind
  and text. -/
  crashed_shape : ∀ t, (TrackResult.crashed track t).status = .failed ∧
    (TrackResult.crashed track t).stages = [] ∧ (TrackResult.crashed track t).worker = none ∧
    (TrackResult.crashed track t).error = some (t.signal.kind.name ++ ": " ++ t.signal.message)
  /-- It names a failed stage exactly when what unwound the run is a stage's cancellation
  report that the stage's error hook was handed and raised again; that signal was first seen at
  the stage, and the stage is the one named. -/
  failed_stage : ∀ t, ((r.runTrack track).run.run w).1 = .error t →
    ((TrackResult.crashed track t).failedStage = none ∧ t.origin = none) ∨
      ∃ s ∈ track.stages, (TrackResult.crashed track t).failedStage = some s.name ∧
        t.origin = some ⟨track.name ++ "/" ++ s.name, "stage", s.name⟩ ∧
        t.signal.isCancelledStage = true ∧
        ∃ e ∈ E, e.path = track.name ++ "/" ++ s.name ∧ e.hook = .failure ∧ e.received = some t ∧
          r.observer.raises? e.hook e.path e.received = some t

theorem crash_contract_of_slashless (r : Runner) (track : Track)
    (trackSlashless : '/' ∉ track.name.toList)
    (stagesSlashless : ∀ s ∈ track.stages, '/' ∉ s.name.toList) (w : World) :
    ∃ E, r.CrashContract track w E := by
  obtain ⟨E, events, handed, unwinds, unwound⟩ := run_track_unwinds r track stagesSlashless w
  refine ⟨E, events, unwinds, unwound, fun result ended => ?_, fun t escaped => ?_,
    fun t => ⟨rfl, rfl, rfl, rfl⟩, fun t escaped => ?_⟩
  · rw [run_run_member, ended]
  · rw [run_run_member, escaped]
  · rcases unwound t escaped with ⟨f, -, rfl⟩ | ⟨e, mem, outer, raised⟩
    · exact .inl ⟨TrackResult.crashed_failed_stage_of_none track rfl, rfl⟩
    · -- a hook raises a fault of its own, or hands back the signal it was handed
      rcases Observer.raises?_cases raised.1 with origin | handedBack
      · exact .inl ⟨TrackResult.crashed_failed_stage_of_none track origin, origin⟩
      · obtain ⟨s, stage, atStage, origin, cancelled⟩ :=
          TrackEvent.stage_of_received stagesSlashless (handed e mem) outer handedBack
        exact .inr ⟨s, stage,
          TrackResult.crashed_failed_stage_of_stage trackSlashless (stagesSlashless s stage) origin,
          origin, cancelled, e, mem, atStage, StepEvent.hook_of_received handedBack, handedBack, raised.1⟩

/-! ## The pipeline goes on past a crashed track -/

theorem run_member_returns (r : Runner) (track : Track) (w : World) :
    ∃ result w', (r.runMember track).run.run w = (.ok result, w') := by
  rw [run_run_member]
  exact ⟨_, _, rfl⟩

theorem map_m_run_member (r : Runner) (tracks : List Track) (w : World) :
    ∃ results w', (tracks.mapM r.runMember).run.run w = (.ok results, w') ∧
      List.Forall₂ (fun track result => ∃ w₀, ((r.runMember track).run.run w₀).1 = .ok result)
        tracks results := by
  induction tracks generalizing w with
  | nil => exact ⟨[], w, rfl, .nil⟩
  | cons track rest ih =>
    obtain ⟨result, w₁, ran⟩ := run_member_returns r track w
    obtain ⟨results, w', mapped, members⟩ := ih w₁
    refine ⟨result :: results, w', ?_, .cons ⟨w, by rw [ran]⟩ members⟩
    rw [List.mapM_cons, run_bind, ran]
    dsimp only
    rw [run_bind, mapped]
    rfl

theorem run_all_returns (r : Runner) (tracks : List Track) (nonempty : tracks ≠ [])
    (distinct : (tracks.map (·.name)).Nodup) (w : World) :
    ∃ b, ((r.runAll tracks).run.run w).1 = .ok b ∧
      List.Forall₂ (fun track result => ∃ w₀, ((r.runMember track).run.run w₀).1 = .ok result)
        tracks b.tracks := by
  obtain ⟨results, w', mapped, members⟩ := map_m_run_member r tracks
    { w with live := tracks.map (·.name), cancelled := [] }
  have ran : (r.runAll tracks).run.run w = (.ok { tracks := results }, { w' with live := [] }) := by
    unfold Runner.runAll
    rw [if_neg (by simpa using nonempty)]
    dsimp only
    rw [duplicates_eq_nil.mpr distinct]
    simp only [List.isEmpty_nil, Bool.not_true, Bool.false_eq_true, if_false]
    rw [run_bind]
    show (List.mapM r.runMember tracks >>= _).run.run
      { w with live := tracks.map (·.name), cancelled := [] } = _
    rw [run_bind, mapped]
    rfl
  exact ⟨_, by rw [ran], members⟩

/-- Every track a pipeline runs keeps the crash contract: its run unwinds only when its
workspace cannot be made, its end hook fails, or a hook at its start or at a stage's path
raises a signal that does not halt the track; the pipeline still returns, and such a track's
result is the crashed one, naming a stage only when a stage's error hook raised the stage's
cancellation again. -/
theorem run_all_crash_contract (r : Runner) (tracks : List Track) (nonempty : tracks ≠ [])
    (distinct : (tracks.map (·.name)).Nodup)
    (slashless : ∀ track ∈ tracks, '/' ∉ track.name.toList ∧ ∀ s ∈ track.stages, '/' ∉ s.name.toList)
    (w : World) :
    ∃ b, ((r.runAll tracks).run.run w).1 = .ok b ∧
      List.Forall₂ (fun track result => ∃ w₀ E, r.CrashContract track w₀ E ∧
        ((r.runMember track).run.run w₀).1 = .ok result) tracks b.tracks := by
  obtain ⟨b, ran, members⟩ := run_all_returns r tracks nonempty distinct w
  refine ⟨b, ran, ((List.forall₂_and_left tracks b.tracks).mpr ⟨slashless, members⟩).imp ?_⟩
  rintro track result ⟨⟨trackSlashless, stagesSlashless⟩, w₀, returned⟩
  obtain ⟨E, contract⟩ := crash_contract_of_slashless r track trackSlashless stagesSlashless w₀
  exact ⟨w₀, E, contract, returned⟩

/-- A pipeline of one track whose start hook fails: the track crashes, and the pipeline
returns its result. -/
theorem run_all_crash_contract_failing_start :
    ([⟨"t", "linux", [⟨"s", [⟨"a", ["true"]⟩], []⟩], []⟩] : List Track) ≠ [] ∧
      (([⟨"t", "linux", [⟨"s", [⟨"a", ["true"]⟩], []⟩], []⟩] : List Track).map (·.name)).Nodup ∧
      (∀ track ∈ ([⟨"t", "linux", [⟨"s", [⟨"a", ["true"]⟩], []⟩], []⟩] : List Track),
        '/' ∉ track.name.toList ∧ ∀ s ∈ track.stages, '/' ∉ s.name.toList) ∧
      ∃ b, (((⟨fun _ => {}, { faults := [⟨.start, "t", .raise (.raised ⟨.runtimeError, "boom"⟩)⟩] }, [], ":", ""⟩ :
          Runner).runAll [⟨"t", "linux", [⟨"s", [⟨"a", ["true"]⟩], []⟩], []⟩]).run.run
          { pool := { workers := [⟨"w1", "w1", ["linux"]⟩] } }).1 = .ok b ∧
        List.Forall₂ (fun track result => ∃ w₀ E,
          (⟨fun _ => {}, { faults := [⟨.start, "t", .raise (.raised ⟨.runtimeError, "boom"⟩)⟩] }, [], ":", ""⟩ :
            Runner).CrashContract track w₀ E ∧
          (((⟨fun _ => {}, { faults := [⟨.start, "t", .raise (.raised ⟨.runtimeError, "boom"⟩)⟩] }, [], ":", ""⟩ :
            Runner).runMember track).run.run w₀).1 = .ok result)
          [⟨"t", "linux", [⟨"s", [⟨"a", ["true"]⟩], []⟩], []⟩] b.tracks :=
  have nonempty : ([⟨"t", "linux", [⟨"s", [⟨"a", ["true"]⟩], []⟩], []⟩] : List Track) ≠ [] := by simp
  have distinct : (([⟨"t", "linux", [⟨"s", [⟨"a", ["true"]⟩], []⟩], []⟩] : List Track).map (·.name)).Nodup := by
    simp
  have slashless : ∀ track ∈ ([⟨"t", "linux", [⟨"s", [⟨"a", ["true"]⟩], []⟩], []⟩] : List Track),
      '/' ∉ track.name.toList ∧ ∀ s ∈ track.stages, '/' ∉ s.name.toList := by
    simp
  ⟨nonempty, distinct, slashless, run_all_crash_contract _ _ nonempty distinct slashless _⟩

/-- A runner whose executor exits with zero and whose hook at the end of track `t` raises the
track's cancellation. -/
def cancellingEnd : Runner :=
  ⟨fun _ => {}, { faults := [⟨.finish, "t", .raise (.cancelled "Track t cancelled")⟩] }, [], ":", ""⟩

/-- A cancellation raised by the hook at the end of a track is not caught: the run unwinds
with it, and the pipeline records the track as crashed with that cancellation as its error. -/
theorem end_hook_cancellation_escapes :
    ((cancellingEnd.runTrack ⟨"t", "linux", [⟨"s", [⟨"a", ["true"]⟩], []⟩], []⟩).run.run
        { pool := { workers := [⟨"w1", "w1", ["linux"]⟩] } }).1 =
      .error { signal := .cancelled "Track t cancelled" } ∧
    (Signal.cancelled "Track t cancelled").haltsTrack = true ∧
    ((cancellingEnd.runMember ⟨"t", "linux", [⟨"s", [⟨"a", ["true"]⟩], []⟩], []⟩).run.run
        { pool := { workers := [⟨"w1", "w1", ["linux"]⟩] } }).1 =
      .ok (TrackResult.crashed ⟨"t", "linux", [⟨"s", [⟨"a", ["true"]⟩], []⟩], []⟩
        { signal := .cancelled "Track t cancelled" }) ∧
    (TrackResult.crashed ⟨"t", "linux", [⟨"s", [⟨"a", ["true"]⟩], []⟩], []⟩
        { signal := .cancelled "Track t cancelled" }).error = some "TrackCancelled: Track t cancelled" := by
  have unwound : ((cancellingEnd.runTrack ⟨"t", "linux", [⟨"s", [⟨"a", ["true"]⟩], []⟩], []⟩).run.run
      { pool := { workers := [⟨"w1", "w1", ["linux"]⟩] } }).1 =
      .error { signal := .cancelled "Track t cancelled" } := by
    rw [run_run_track_of_acquired _ _ Pool.acquire_single_idle]
    rfl
  refine ⟨unwound, rfl, ?_, rfl⟩
  rw [run_run_member, unwound]

end Conveyor.Pipeline
