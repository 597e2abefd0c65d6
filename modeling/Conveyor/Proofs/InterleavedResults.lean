import Conveyor.Proofs.Interleaving

/-!
# Results and calls of every interleaving

Every result of an interleaving bears the name of its own track, so a finished floor lists its
results in the order the tracks were given (`Floor.Run.batch_follows_tracks`); every call made
is one of its own track's actions, under that track's environment layers. The pipeline's own
run, one track after the other, is one interleaving (`run_all_is_interleaving`).
-/

namespace Conveyor.Pipeline

open Conveyor.Env Conveyor.Workers Conveyor.Text

set_option autoImplicit false

@[simp] theorem TrackResult.of_stages_name (track : Track) (worker : Worker)
    (stages : List StageResult) (ending : StagesEnd) :
    (TrackResult.ofStages track worker stages ending).name = track.name := by
  cases ending with
  | halted signal => cases signal <;> rfl
  | _ => rfl

def Stand.Named (track : Track) : Stand → Prop
  | .closing _ (.ok result) => result.name = track.name
  | .ended result => result.name = track.name
  | _ => True

theorem Stand.unwound_named (track : Track) (worker : Worker) (done : List StageResult) (t : Thrown) :
    (Stand.unwound track worker done t).Named track := by
  unfold Stand.unwound
  split
  · exact TrackResult.of_stages_name track worker done _
  · trivial

theorem advance_named (r : Runner) (track : Track) {stand next : Stand} {w w' : World}
    (named : stand.Named track) (moved : (r.advance track stand).run.run w = (.ok next, w')) :
    next.Named track := by
  cases stand with
  | queued =>
    rw [Runner.advance, run_map_attempt, run_claim_worker] at moved
    split at moved <;> cases moved <;> trivial
  | stages worker done rest =>
    cases rest with
    | nil =>
      cases moved
      exact TrackResult.of_stages_name track worker done _
    | cons stage rest =>
      rw [Runner.advance, run_bind, run_is_cancelled] at moved
      dsimp only at moved
      split at moved
      · cases moved
        exact TrackResult.of_stages_name track worker _ _
      · rw [run_map_attempt] at moved
        cases moved
        rcases ((r.openStage track (r.trackStack track) stage).run.run w).1 with t | _
        · exact Stand.unwound_named track worker done t
        · trivial
  | closingStage worker done stage rest ran stopped =>
    rw [Runner.advance, run_map_attempt] at moved
    cases moved
    rcases ((r.closeStage track stage ran stopped).run.run w).1 with t | ⟨_, _ | _⟩
    · exact Stand.unwound_named track worker done t
    · trivial
    · exact TrackResult.of_stages_name track worker _ _
  | closing worker outcome =>
    rw [Runner.advance, run_map_attempt] at moved
    cases moved
    rw [(run_close_track r track worker outcome w).1]
    cases r.observer.raises? .finish track.name none with
    | some t => rfl
    | none =>
      cases outcome with
      | ok result => exact named
      | error t => rfl
  | ended result =>
    cases moved
    exact named
  | holding worker =>
    rw [Runner.advance, run_map_attempt] at moved
    cases moved
    rcases ((r.openTrack track worker).run.run w).1 with t | _
    · exact Stand.unwound_named track worker [] t
    · trivial
  | actions worker done stage rest ran todo =>
    cases todo with
    | nil =>
      cases moved
      trivial
    | cons action todo =>
      rw [Runner.advance, run_map_attempt] at moved
      cases moved
      cases ((r.startAction track.name worker (r.stageStack track stage)
        (track.name ++ "/" ++ stage.name) action).run.run w).1 <;> trivial
  | settling worker done stage rest ran action result todo =>
    rw [Runner.advance, run_map_attempt] at moved
    cases moved
    cases ((r.settle track.name (track.name ++ "/" ++ stage.name) action result).run.run w).1 <;>
      trivial

/-- The stands of a floor follow the tracks one to one, each result under its own track's
name. -/
structure Floor.Aligned (tracks : List Track) (f : Floor) : Prop where
  length : f.stands.length = tracks.length
  named : ∀ (i : Nat) (track : Track) (stand : Stand), tracks[i]? = some track →
    f.stands[i]? = some stand → stand.Named track

theorem Floor.aligned_start (w : World) (tracks : List Track) :
    (Floor.start w tracks).Aligned tracks := by
  refine ⟨by simp [Floor.start], fun i track stand named standing => ?_⟩
  simp only [Floor.start, List.getElem?_map, named, Option.map_some, Option.some.injEq] at standing
  subst standing
  trivial

theorem Floor.Step.aligned {r : Runner} {tracks : List Track} {f g : Floor} {m : Move}
    (step : Floor.Step r tracks f m g) (inv : f.Aligned tracks) : g.Aligned tracks := by
  cases step with
  | cancel => exact ⟨inv.length, inv.named⟩
  | cancelAll => exact ⟨inv.length, inv.named⟩
  | @step i track stand next w' named standing ready moved =>
    refine ⟨by simp [inv.length], fun j track' stand' named' standing' => ?_⟩
    rw [List.getElem?_set] at standing'
    by_cases same : i = j
    · subst same
      rw [named] at named'
      cases named'
      have inside : i < f.stands.length := (List.getElem?_eq_some_iff.mp standing).1
      simp only [if_pos inside, ite_true, Option.some.injEq] at standing'
      subst standing'
      exact advance_named r track (inv.named i track stand named standing) moved
    · rw [if_neg same] at standing'
      exact inv.named j track' stand' named' standing'

theorem Floor.Run.aligned {r : Runner} {tracks : List Track} {f g : Floor} {ms : List Move}
    (run : Floor.Run r tracks f ms g) (inv : f.Aligned tracks) : g.Aligned tracks := by
  induction run with
  | done => exact inv
  | step first _ ih => exact ih (first.aligned inv)

def Stand.result? : Stand → Option TrackResult
  | .ended result => some result
  | _ => none

def Floor.Finished (f : Floor) : Prop :=
  ∀ stand ∈ f.stands, ∃ result, stand = .ended result

/-- The pipeline's result read off a floor: the results the runs have reached, in the order
of the tracks. -/
def Floor.batch (f : Floor) : BatchResult :=
  { tracks := f.stands.filterMap Stand.result? }

theorem Floor.batch_of_finished {f : Floor} (finished : f.Finished) :
    f.batch.tracks = f.stands.map fun stand => stand.result?.getD default := by
  refine List.filterMap_eq_map_iff_forall_eq_some.mpr fun stand mem => ?_
  obtain ⟨result, rfl⟩ := finished stand mem
  rfl

theorem failed_names_of_names {tracks : List Track} {results : List TrackResult}
    (names : results.map (·.name) = tracks.map (·.name)) :
    ((results.filter fun t => !t.succeeded).map (·.name)) =
      ((tracks.zip results).filter fun p => !p.2.succeeded).map (·.1.name) := by
  induction tracks generalizing results with
  | nil =>
    rw [List.map_nil, List.map_eq_nil_iff] at names
    subst names
    rfl
  | cons track tracks ih =>
    cases results with
    | nil => cases names
    | cons result results =>
      simp only [List.map_cons, List.cons.injEq] at names
      obtain ⟨named, rest⟩ := names
      by_cases succeeded : result.succeeded = true
      · simp [succeeded, ih rest]
      · simp [succeeded, named, ih rest]

/-- Whatever the interleaving, a finished pipeline lists one result per track in the order
the tracks were given, succeeds exactly when every track did, and names as failed exactly
the tracks whose results did not succeed, in that order. -/
theorem Floor.Run.batch_follows_tracks {r : Runner} {tracks : List Track} {w : World}
    {ms : List Move} {f : Floor} (run : Floor.Run r tracks (Floor.start w tracks) ms f)
    (finished : f.Finished) :
    f.batch.tracks.map (·.name) = tracks.map (·.name) ∧
    (f.batch.status = "succeeded" ↔ ∀ result ∈ f.batch.tracks, result.succeeded) ∧
    f.batch.failedTracks =
      ((tracks.zip f.batch.tracks).filter fun p => !p.2.succeeded).map (·.1.name) := by
  have aligned := run.aligned (Floor.aligned_start w tracks)
  have names : f.batch.tracks.map (·.name) = tracks.map (·.name) := by
    rw [Floor.batch_of_finished finished, List.map_map]
    refine List.ext_getElem (by simp [aligned.length]) fun i inside _ => ?_
    have present : i < f.stands.length := by simpa using inside
    have below : i < tracks.length := aligned.length ▸ present
    have standing : f.stands[i]? = some f.stands[i] := List.getElem?_eq_getElem present
    obtain ⟨result, ended⟩ := finished f.stands[i] (List.getElem_mem _)
    have named := aligned.named i tracks[i] f.stands[i] (List.getElem?_eq_getElem below) standing
    rw [ended, Stand.Named] at named
    simp [ended, Stand.result?, named]
  refine ⟨names, ?_, failed_names_of_names names⟩
  unfold BatchResult.status BatchResult.succeeded
  split <;> simp_all

/-! ## The calls of every interleaving -/

/-- Where a track's run can stand: the stages still to run are a tail of the track's own,
and so are the actions still to run of the stage it is in. -/
def Stand.InTrack (track : Track) : Stand → Prop
  | .stages _ _ rest => rest <:+ track.stages
  | .actions _ _ stage rest _ todo => stage :: rest <:+ track.stages ∧ todo <:+ stage.actions
  | .settling _ _ stage rest _ _ _ todo => stage :: rest <:+ track.stages ∧ todo <:+ stage.actions
  | .closingStage _ _ stage rest _ _ => stage :: rest <:+ track.stages
  | _ => True

/-- A call made for an action of one of a track's stages, in the stage's layer over the
track's, on some worker. -/
def Runner.TrackCall (r : Runner) (track : Track) (c : Call) : Prop :=
  ∃ worker, ∃ s ∈ track.stages, r.StageCall track worker (r.trackStack track) s c

theorem advance_calls (r : Runner) (track : Track) {stand next : Stand} {w w' : World}
    (placed : stand.InTrack track) (moved : (r.advance track stand).run.run w = (.ok next, w')) :
    next.InTrack track ∧ ∃ made, w'.calls = w.calls ++ made ∧ ∀ c ∈ made, r.TrackCall track c := by
  have unchanged : ∃ made, w.calls = w.calls ++ made ∧ ∀ c ∈ made, r.TrackCall track c :=
    ⟨[], by simp, by simp⟩
  cases stand with
  | queued =>
    rw [Runner.advance, run_map_attempt, run_claim_worker] at moved
    split at moved <;> cases moved <;> exact ⟨trivial, unchanged⟩
  | holding worker =>
    rw [Runner.advance, run_map_attempt] at moved
    cases moved
    refine ⟨?_, (observe_confined r _ _ _ w).calls⟩
    cases ((r.openTrack track worker).run.run w).1
    · trivial
    · exact List.suffix_refl _
  | stages worker done rest =>
    cases rest with
    | nil =>
      cases moved
      exact ⟨trivial, unchanged⟩
    | cons stage rest =>
      rw [Runner.advance, run_bind, run_is_cancelled] at moved
      dsimp only at moved
      split at moved
      · cases moved
        exact ⟨trivial, unchanged⟩
      · rw [run_map_attempt] at moved
        cases moved
        refine ⟨?_, (observe_confined r _ _ _ w).calls⟩
        cases ((r.openStage track (r.trackStack track) stage).run.run w).1
        · trivial
        · exact ⟨placed, List.suffix_refl _⟩
  | actions worker done stage rest ran todo =>
    cases todo with
    | nil =>
      cases moved
      exact ⟨placed.1, unchanged⟩
    | cons action todo =>
      rw [Runner.advance, run_map_attempt] at moved
      cases moved
      refine ⟨?_, ((start_action_confined r worker _ _ _ action w).weaken fun c made =>
        ⟨worker, stage, placed.1.subset List.mem_cons_self, action,
          placed.2.subset List.mem_cons_self, made⟩).calls⟩
      cases ((r.startAction track.name worker (r.stageStack track stage)
          (track.name ++ "/" ++ stage.name) action).run.run w).1
      · exact placed.1
      · exact ⟨placed.1, (List.suffix_cons action todo).trans placed.2⟩
  | settling worker done stage rest ran action result todo =>
    rw [Runner.advance, run_map_attempt] at moved
    cases moved
    refine ⟨?_, (settle_confined r _ _ action result w).calls⟩
    cases ((r.settle track.name (track.name ++ "/" ++ stage.name) action result).run.run w).1
    · exact placed.1
    · exact placed
  | closingStage worker done stage rest ran stopped =>
    rw [Runner.advance, run_map_attempt] at moved
    cases moved
    refine ⟨?_, (close_stage_confined r track stage ran stopped w).calls⟩
    rcases ((r.closeStage track stage ran stopped).run.run w).1 with _ | ⟨_, _ | _⟩
    · trivial
    · exact (List.suffix_cons stage rest).trans placed
    · trivial
  | closing worker outcome =>
    rw [Runner.advance, run_map_attempt] at moved
    cases moved
    refine ⟨?_, [], ?_, by simp⟩
    · cases ((r.closeTrack track worker outcome).run.run w).1 <;> trivial
    · rw [(run_close_track r track worker outcome w).2.2.1, List.append_nil]
  | ended result =>
    cases moved
    exact ⟨trivial, unchanged⟩

/-- Every stand of a floor is where its track's run can stand, and every call made since the
world `w` is for an action of a stage of one of the tracks. -/
structure Floor.CallsFrom (r : Runner) (tracks : List Track) (w : World) (f : Floor) : Prop where
  placed : ∀ (i : Nat) (track : Track) (stand : Stand), tracks[i]? = some track →
    f.stands[i]? = some stand → stand.InTrack track
  calls : ∃ made, f.world.calls = w.calls ++ made ∧ ∀ c ∈ made, ∃ track ∈ tracks, r.TrackCall track c

theorem Floor.calls_from_start (r : Runner) (w : World) (tracks : List Track) :
    (Floor.start w tracks).CallsFrom r tracks w := by
  refine ⟨fun i track stand named standing => ?_, [], by simp [Floor.start], by simp⟩
  simp only [Floor.start, List.getElem?_map, named, Option.map_some, Option.some.injEq] at standing
  subst standing
  trivial

theorem Floor.Step.calls_from {r : Runner} {tracks : List Track} {w : World} {f g : Floor}
    {m : Move} (step : Floor.Step r tracks f m g) (inv : f.CallsFrom r tracks w) :
    g.CallsFrom r tracks w := by
  obtain ⟨made, calls, forTracks⟩ := inv.calls
  cases step with
  | cancel => exact ⟨inv.placed, made, calls, forTracks⟩
  | cancelAll => exact ⟨inv.placed, made, calls, forTracks⟩
  | @step i track stand next w' named standing ready moved =>
    obtain ⟨nextPlaced, made', calls', forTrack⟩ :=
      advance_calls r track (inv.placed i track stand named standing) moved
    refine ⟨fun j track' stand' named' standing' => ?_, made ++ made',
      by rw [calls', calls, List.append_assoc], fun c mem => ?_⟩
    · rw [List.getElem?_set] at standing'
      by_cases same : i = j
      · subst same
        rw [named] at named'
        cases named'
        have inside : i < f.stands.length := (List.getElem?_eq_some_iff.mp standing).1
        simp only [if_pos inside, ite_true, Option.some.injEq] at standing'
        subst standing'
        exact nextPlaced
      · rw [if_neg same] at standing'
        exact inv.placed j track' stand' named' standing'
    · rcases List.mem_append.mp mem with earlier | now
      · exact forTracks c earlier
      · exact ⟨track, List.mem_of_getElem? named, forTrack c now⟩

theorem Floor.Run.calls_from {r : Runner} {tracks : List Track} {w : World} {f g : Floor}
    {ms : List Move} (run : Floor.Run r tracks f ms g) (inv : f.CallsFrom r tracks w) :
    g.CallsFrom r tracks w := by
  induction run with
  | done => exact inv
  | step first _ ih => exact ih (first.calls_from inv)

theorem Floor.Run.calls_see_track_then_stage_layer {r : Runner} {tracks : List Track}
    {w : World} {ms : List Move} {g : Floor} (run : Floor.Run r tracks (Floor.start w tracks) ms g)
    (trackLayer : Track → Overlay) (stageLayer : Track → Stage → Overlay)
    (read : ∀ track ∈ tracks, Overlay.ofValues (track.env.map .str) = .ok (trackLayer track) ∧
      ∀ s ∈ track.stages, Overlay.ofValues (s.env.map .str) = .ok (stageLayer track s)) :
    ∃ made, g.world.calls = w.calls ++ made ∧
      ∀ c ∈ made, ∃ track ∈ tracks, ∃ s ∈ track.stages, ∃ a ∈ s.actions,
        c.track = track.name ∧ c.path = track.name ++ "/" ++ s.name ++ "/" ++ a.name ∧
          c.argv = a.argv ∧
          ({ separator := r.separator, layers := [trackLayer track, stageLayer track s] } : Stack).resolve
            r.ambient = .ok c.env := by
  obtain ⟨made, calls, forTracks⟩ := (run.calls_from (Floor.calls_from_start r w tracks)).calls
  refine ⟨made, calls, fun c mem => ?_⟩
  obtain ⟨track, inTracks, worker, s, inTrack, a, inStage, env, resolved, rfl⟩ := forTracks c mem
  obtain ⟨trackRead, stagesRead⟩ := read track inTracks
  rw [stage_layers, overlay_of_eq_of_read trackRead, overlay_of_eq_of_read (stagesRead s inTrack)]
    at resolved
  exact ⟨track, inTracks, s, inTrack, a, inStage, rfl, rfl, rfl, resolved⟩

/-! ## The pipeline's own schedule -/

theorem run_member_busy_of_quiet (r : Runner) (track : Track) (w : World)
    (quiet : r.observer.raises? .finish track.name none = none) :
    ((r.runMember track).run.run w).2.pool.busy = w.pool.busy := by
  unfold Runner.runMember
  rw [run_attempt_bind, ← run_track_busy_of_quiet r track w quiet]
  cases ((r.runTrack track).run.run w).1 <;> rfl

theorem Floor.Run.append {r : Runner} {tracks : List Track} {f g h : Floor} {ms ms' : List Move}
    (first : Floor.Run r tracks f ms g) (second : Floor.Run r tracks g ms' h) :
    Floor.Run r tracks f (ms ++ ms') h := by
  induction first with
  | done => exact second
  | step step _ ih => exact .step step (ih second)

theorem Floor.run_of_drives {r : Runner} {tracks : List Track} {k : Nat} {track : Track}
    (named : tracks[k]? = some track) {here there : Stand × World}
    (drives : r.Drives track here there) :
    ∀ stands : List Stand, stands[k]? = some here.1 →
      (here.1 = .queued → here.1.Ready r track here.2) →
      ∃ ms, Floor.Run r tracks ⟨here.2, stands⟩ ms ⟨there.2, stands.set k there.1⟩ := by
  induction drives using Relation.ReflTransGen.head_induction_on with
  | refl =>
    intro stands standing _
    obtain ⟨inside, same⟩ := List.getElem?_eq_some_iff.mp standing
    have kept : stands.set k there.1 = stands := by rw [← same, List.set_getElem_self]
    rw [kept]
    exact ⟨[], .done _⟩
  | @head here mid step _ ih =>
    obtain ⟨stand, w⟩ := here
    obtain ⟨next, w'⟩ := mid
    intro stands standing ready
    by_cases ended : ∃ result, stand = .ended result
    · -- an ended run stays where it is
      obtain ⟨result, rfl⟩ := ended
      cases step
      exact ih stands standing (fun queued => by cases queued)
    · have ready : stand.Ready r track w := by
        cases stand with
        | queued => exact ready rfl
        | ended result => exact absurd ⟨result, rfl⟩ ended
        | _ => trivial
      obtain ⟨ms, rest⟩ := ih (stands.set k next) (by simp [(List.getElem?_eq_some_iff.mp standing).1])
        (fun queued => absurd queued (advance_ne_queued r track step))
      have rest : Floor.Run r tracks ⟨w', stands.set k next⟩ ms ⟨there.2, stands.set k there.1⟩ := by
        simpa using rest
      exact ⟨_, .step (Floor.Step.step named standing ready step) rest⟩

theorem Floor.run_of_members (r : Runner) (tracks : List Track)
    (quiet : ∀ track ∈ tracks, r.observer.raises? .finish track.name none = none) :
    ∀ (rest : List Track) (done : List TrackResult) (w : World), tracks.drop done.length = rest →
      w.pool.busy = [] →
      ∃ results w' ms, (rest.mapM r.runMember).run.run w = (.ok results, w') ∧
        Floor.Run r tracks ⟨w, done.map .ended ++ rest.map fun _ => .queued⟩ ms
          ⟨w', (done ++ results).map .ended⟩ := by
  intro rest
  induction rest with
  | nil =>
    intro done w _ _
    exact ⟨[], w, [], rfl, by simpa using .done _⟩
  | cons track rest ih =>
    intro done w dropped idle
    have named : tracks[done.length]? = some track := by
      rw [← List.head?_drop, dropped]
      rfl
    obtain ⟨result, w₁, ran, drives⟩ := run_member_drives r track w
    have ready : Stand.Ready r track w .queued := .inl fun m => Pool.acquire_ne_cancelled idle _ _ m
    obtain ⟨ms₁, first⟩ := Floor.run_of_drives named drives
      (done.map .ended ++ (track :: rest).map fun _ => .queued) (by simp) fun _ => ready
    have idle₁ : w₁.pool.busy = [] := by
      rw [← idle, ← run_member_busy_of_quiet r track w (quiet track (List.mem_of_getElem? named)), ran]
    obtain ⟨results, w', ms₂, mapped, second⟩ := ih (done ++ [result]) w₁
      (by rw [List.length_append, List.length_singleton, ← List.drop_drop, dropped]; rfl) idle₁
    refine ⟨result :: results, w', ms₁ ++ ms₂, ?_, first.append ?_⟩
    · rw [List.mapM_cons, run_bind, ran]
      dsimp only
      rw [run_bind, mapped]
      rfl
    · simpa [List.set_append_right] using second

theorem Floor.batch_ended (results : List TrackResult) (w : World) :
    (Floor.mk w (results.map .ended)).batch = { tracks := results } := by
  simp [Floor.batch, List.filterMap_map, Function.comp_def, Stand.result?]

theorem run_all_is_interleaving (r : Runner) (tracks : List Track) (w : World) (nonempty : tracks ≠ [])
    (distinct : duplicates (tracks.map (·.name)) = [])
    (quiet : ∀ track ∈ tracks, r.observer.raises? .finish track.name none = none)
    (idle : w.pool.busy = []) :
    ∃ ms g, Floor.Run r tracks (Floor.start w tracks) ms g ∧ g.Finished ∧
      (r.runAll tracks).run.run w = (.ok g.batch, { g.world with live := [] }) := by
  obtain ⟨results, w', ms, mapped, run⟩ := Floor.run_of_members r tracks quiet tracks []
    { w with live := tracks.map (·.name), cancelled := [] } rfl idle
  refine ⟨ms, ⟨w', results.map .ended⟩, by simpa [Floor.start] using run, ?_, ?_⟩
  · intro stand mem
    obtain ⟨result, _, rfl⟩ := List.mem_map.mp mem
    exact ⟨result, rfl⟩
  · rw [Floor.batch_ended]
    unfold Runner.runAll
    rw [if_neg (by simpa using nonempty)]
    dsimp only
    rw [distinct]
    simp only [List.isEmpty_nil, Bool.not_true, Bool.false_eq_true, if_false]
    rw [run_bind]
    show (List.mapM r.runMember tracks >>= _).run.run
      { w with live := tracks.map (·.name), cancelled := [] } = _
    rw [run_bind, mapped]
    rfl

end Conveyor.Pipeline
