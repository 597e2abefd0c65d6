import Conveyor.Proofs.Isolation

/-!
# Whole runs of a track, over every interleaving

A run of the floor, seen from one track, is a walk through that track's own steps
(`Floor.Run.walk`), and two walks of one track that see alike sights end in twin results
(`Runner.Walk.twin`). Over every interleaving, each track's result is decided by the track,
the runner's answers for it and the sights it saw (`interleaved_tracks_stay_apart`).
-/

namespace Conveyor.Pipeline

open Conveyor.Env Conveyor.Workers

set_option autoImplicit false

variable {α β γ δ : Type}

/-- Two sights of a track alike: the same cancel flag, and the same answer from the pool to
a track that was already cancelled when it asked for a worker. -/
def Sight.Alike (s₁ s₂ : Sight) : Prop :=
  s₁.flagged = s₂.flagged ∧ (s₁.flagged = true → s₁.claim = s₂.claim)

theorem Runner.sight_eq_of_alike {r₁ r₂ : Runner} {track : Track} {stand₁ stand₂ : Stand}
    {w₁ w₂ : World} (twin : stand₁.Twin stand₂) (ready₁ : stand₁.Ready r₁ track w₁)
    (ready₂ : stand₂.Ready r₂ track w₂) (makeable₁ : w₁.pool.Makeable)
    (makeable₂ : w₂.pool.Makeable) (workers : w₁.pool.workers = w₂.pool.workers)
    (alike : Sight.Alike (r₁.sight track stand₁ w₁) (r₂.sight track stand₂ w₂)) :
    r₁.sight track stand₁ w₁ = r₂.sight track stand₂ w₂ := by
  obtain ⟨flags, claims⟩ := alike
  suffices same : (r₁.sight track stand₁ w₁).claim = (r₂.sight track stand₂ w₂).claim by
    simp only [Runner.sight, Sight.mk.injEq] at flags same ⊢
    exact ⟨flags, same⟩
  cases flagged : (r₁.sight track stand₁ w₁).flagged
  case true => exact claims flagged
  case false =>
    cases twin with
    | queued =>
      have clear₁ : track.name ∉ w₁.cancelled := by simpa [Runner.sight] using flagged
      have clear₂ : track.name ∉ w₂.cancelled := by
        rw [flags] at flagged
        simpa [Runner.sight] using flagged
      simp only [Runner.sight]
      rw [Pool.acquire_answer makeable₁ (Or.resolve_right ready₁ clear₁),
        Pool.acquire_answer makeable₂ (Or.resolve_right ready₂ clear₂), workers]
    | _ => rfl

/-- A track's run from one stand to another, with what it saw at each step, in worlds in
which `live` holds the names that may be cancelled and the pool has the workers and files of
`stock`; each step is one the track is ready to take. -/
inductive Runner.Walk (r : Runner) (track : Track) (live : List String) (stock : Pool) :
    Stand → List Sight → Stand → Prop
  | done (stand : Stand) : r.Walk track live stock stand [] stand
  | step {stand next last : Stand} {w w' : World} {sights : List Sight}
      (named : w.live = live) (stocked : w.pool.workers = stock.workers ∧ w.pool.files = stock.files)
      (ready : stand.Ready r track w) (moved : (r.advance track stand).run.run w = (.ok next, w'))
      (rest : r.Walk track live stock next sights last) :
      r.Walk track live stock stand (r.sight track stand w :: sights) last

theorem Runner.Walk.twin {r₁ r₂ : Runner} {track : Track} (alike : Runner.Alike track.name r₁ r₂)
    {live₁ live₂ : List String} (names : ∀ other, live₁.contains other = live₂.contains other)
    {stock₁ stock₂ : Pool} (workers : stock₁.workers = stock₂.workers)
    (makeable₁ : stock₁.Makeable) (makeable₂ : stock₂.Makeable)
    {stand₁ stand₂ last₁ last₂ : Stand} {sights₁ sights₂ : List Sight}
    (walk₁ : r₁.Walk track live₁ stock₁ stand₁ sights₁ last₁)
    (walk₂ : r₂.Walk track live₂ stock₂ stand₂ sights₂ last₂)
    (seen : List.Forall₂ Sight.Alike sights₁ sights₂) (twin : stand₁.Twin stand₂) :
    last₁.Twin last₂ := by
  induction walk₁ generalizing stand₂ sights₂ with
  | done =>
    cases walk₂ with
    | done => exact twin
    | step => cases seen
  | step named₁ stocked₁ ready₁ moved₁ _ ih =>
    cases walk₂ with
    | done => cases seen
    | step named₂ stocked₂ ready₂ moved₂ rest₂ =>
      cases seen with
      | cons head tail =>
        have sights := Runner.sight_eq_of_alike twin ready₁ ready₂
          (makeable₁.of_stock stocked₁.1 stocked₁.2) (makeable₂.of_stock stocked₂.1 stocked₂.2)
          (by rw [stocked₁.1, stocked₂.1, workers]) head
        exact ih rest₂ tail (advance_twin alike twin sights (by rw [named₁, named₂]; exact names)
          moved₁ moved₂)

def Move.sightOf (i : Nat) : Move → Option Sight
  | .step j sight => if i = j then some sight else none
  | _ => none

def Move.seenBy (i : Nat) (ms : List Move) : List Sight :=
  ms.filterMap (Move.sightOf i)

theorem Floor.Step.stock {r : Runner} {tracks : List Track} {f g : Floor} {m : Move}
    (step : Floor.Step r tracks f m g) :
    g.world.live = f.world.live ∧ g.world.pool.workers = f.world.pool.workers ∧
      g.world.pool.files = f.world.pool.files := by
  cases step with
  | step _ _ _ moved => exact advance_stock r _ moved
  | cancel => exact ⟨rfl, rfl, rfl⟩
  | cancelAll => exact ⟨rfl, rfl, rfl⟩

/-- A run of the floor, seen from one track: its stand walks through the track's own steps,
while every other move leaves it where it is. -/
theorem Floor.Run.walk {r : Runner} {tracks : List Track} {f g : Floor} {ms : List Move}
    (run : Floor.Run r tracks f ms g) {i : Nat} {track : Track} (named : tracks[i]? = some track)
    {live : List String} {stock : Pool}
    (fixed : f.world.live = live ∧ f.world.pool.workers = stock.workers ∧
      f.world.pool.files = stock.files) {stand : Stand}
    (standing : f.stands[i]? = some stand) :
    ∃ last, g.stands[i]? = some last ∧ r.Walk track live stock stand (Move.seenBy i ms) last := by
  induction run generalizing stand with
  | done => exact ⟨stand, standing, .done stand⟩
  | step first _ ih =>
    obtain ⟨live', workers', files'⟩ := first.stock
    have kept := And.intro (live'.trans fixed.1)
      (And.intro (workers'.trans fixed.2.1) (files'.trans fixed.2.2))
    cases first with
    | cancel =>
      obtain ⟨last, ends, walk⟩ := ih kept standing
      exact ⟨last, ends, by simpa [Move.seenBy, Move.sightOf, List.filterMap_cons] using walk⟩
    | cancelAll =>
      obtain ⟨last, ends, walk⟩ := ih kept standing
      exact ⟨last, ends, by simpa [Move.seenBy, Move.sightOf, List.filterMap_cons] using walk⟩
    | @step j track' stand' next w' named' standing' ready moved =>
      by_cases same : i = j
      · -- the track's own step
        subst same
        rw [named] at named'
        cases named'
        rw [standing] at standing'
        cases standing'
        have inside : i < _ := (List.getElem?_eq_some_iff.mp standing).1
        obtain ⟨last, ends, walk⟩ := @ih kept next (by simp [inside])
        refine ⟨last, ends, ?_⟩
        simp only [Move.seenBy, List.filterMap_cons, Move.sightOf]
        exact .step fixed.1 fixed.2 ready moved walk
      · -- another track's step
        obtain ⟨last, ends, walk⟩ := ih kept (by rw [List.getElem?_set_ne (Ne.symm same)]; exact standing)
        exact ⟨last, ends, by simpa [Move.seenBy, Move.sightOf, List.filterMap_cons, same] using walk⟩

theorem Floor.Run.isolated {r₁ r₂ : Runner} {tracks₁ tracks₂ : List Track} {w₁ w₂ : World}
    {ms₁ ms₂ : List Move} {g₁ g₂ : Floor} {i j : Nat} {track : Track}
    (run₁ : Floor.Run r₁ tracks₁ (Floor.start w₁ tracks₁) ms₁ g₁)
    (run₂ : Floor.Run r₂ tracks₂ (Floor.start w₂ tracks₂) ms₂ g₂)
    (at₁ : tracks₁[i]? = some track) (at₂ : tracks₂[j]? = some track)
    (alike : Runner.Alike track.name r₁ r₂)
    (names : ∀ name, name ∈ tracks₁.map (·.name) ↔ name ∈ tracks₂.map (·.name))
    (workers : w₁.pool.workers = w₂.pool.workers)
    (makeable₁ : w₁.pool.Makeable) (makeable₂ : w₂.pool.Makeable)
    (seen : List.Forall₂ Sight.Alike (Move.seenBy i ms₁) (Move.seenBy j ms₂)) :
    ∃ last₁ last₂, g₁.stands[i]? = some last₁ ∧ g₂.stands[j]? = some last₂ ∧ last₁.Twin last₂ := by
  have queued₁ : (Floor.start w₁ tracks₁).stands[i]? = some .queued := by
    simp only [Floor.start, List.getElem?_map, at₁, Option.map_some]
  have queued₂ : (Floor.start w₂ tracks₂).stands[j]? = some .queued := by
    simp only [Floor.start, List.getElem?_map, at₂, Option.map_some]
  obtain ⟨last₁, ended₁, walk₁⟩ := run₁.walk at₁ ⟨rfl, rfl, rfl⟩ queued₁
  obtain ⟨last₂, ended₂, walk₂⟩ := run₂.walk at₂ ⟨rfl, rfl, rfl⟩ queued₂
  refine ⟨last₁, last₂, ended₁, ended₂,
    walk₁.twin alike (fun other => ?_) workers makeable₁ makeable₂ walk₂ seen .queued⟩
  exact Bool.eq_iff_iff.mpr (by simpa [Floor.start] using names other)

theorem Stand.twin_ended {result : TrackResult} {stand : Stand}
    (twin : (Stand.ended result).Twin stand) : ∃ result', stand = .ended result' ∧ result.Twin result' := by
  cases twin with
  | ended same => exact ⟨_, rfl, same⟩

/-! ## A pipeline's tracks, over every interleaving -/

/-- What a pipeline guarantees at every floor its run reaches: no worker is held by two
tracks; once every track has ended, the pipeline's result lists the tracks' results in the
order the tracks were given, succeeds exactly when each of them did, and names the failed
ones in that order; and a track's result, up to the worker it names, is decided by the track
itself, by the runner's answers for its own calls and paths, by the pool's workers, by the
pipeline's names and by its sights: its cancel flag at each of its steps, and the pool's
answer only when it asked for a worker already cancelled. Whatever its siblings do
otherwise, it ends the same. -/
structure Floor.Apart (r : Runner) (tracks : List Track) (w : World) (ms : List Move) (g : Floor) :
    Prop where
  exclusive : g.Exclusive
  ordered : g.Finished →
    g.batch.tracks.map (·.name) = tracks.map (·.name) ∧
    (g.batch.status = "succeeded" ↔ ∀ result ∈ g.batch.tracks, result.succeeded) ∧
    g.batch.failedTracks =
      ((tracks.zip g.batch.tracks).filter fun p => !p.2.succeeded).map (·.1.name)
  isolated : ∀ (r' : Runner) (tracks' : List Track) (w' : World) (ms' : List Move) (g' : Floor)
    (i j : Nat) (track : Track) (result : TrackResult),
    Floor.Run r' tracks' (Floor.start w' tracks') ms' g' →
    tracks[i]? = some track → tracks'[j]? = some track → Runner.Alike track.name r r' →
    (∀ name, name ∈ tracks.map (·.name) ↔ name ∈ tracks'.map (·.name)) →
    w.pool.workers = w'.pool.workers → w.pool.Makeable → w'.pool.Makeable →
    List.Forall₂ Sight.Alike (Move.seenBy i ms) (Move.seenBy j ms') →
    g.stands[i]? = some (.ended result) →
    ∃ result', g'.stands[j]? = some (.ended result') ∧ result.Twin result'

/-- Every interleaving of the steps of a pipeline's tracks and of cancel requests keeps the
tracks apart. -/
theorem interleaved_tracks_stay_apart {r : Runner} {tracks : List Track} {w : World}
    {ms : List Move} {g : Floor} (run : Floor.Run r tracks (Floor.start w tracks) ms g) :
    Floor.Apart r tracks w ms g := by
  refine ⟨run.exclusive (Floor.exclusive_start w tracks), run.batch_follows_tracks, ?_⟩
  intro r' tracks' w' ms' g' i j track result run' at₁ at₂ alike names workers makeable
    makeable' seen ended
  obtain ⟨last, last', standing, standing', twin⟩ :=
    run.isolated run' at₁ at₂ alike names workers makeable makeable' seen
  rw [ended, Option.some.injEq] at standing
  subst standing
  obtain ⟨result', rfl, same⟩ := Stand.twin_ended twin
  exact ⟨result', standing', same⟩

/-- A one-track pipeline whose track is cancelled while it waits for the one worker, which
is idle and is handed to it. -/
theorem interleaved_tracks_stay_apart_cancelled_wait :
    Floor.Run (⟨fun _ => {}, {}, [], ":", ""⟩ : Runner) [⟨"t", "linux", [⟨"s", [⟨"a", ["true"]⟩], []⟩], []⟩]
        (Floor.start { pool := { workers := [⟨"w1", "w1", ["linux"]⟩] } }
          [⟨"t", "linux", [⟨"s", [⟨"a", ["true"]⟩], []⟩], []⟩])
        [.cancel "t", .step 0 ⟨true, some (.ok ())⟩]
        ⟨{ pool := { workers := [⟨"w1", "w1", ["linux"]⟩], busy := ["w1"], directories := ["w1"] },
            cancelled := ["t"], live := ["t"] }, [.holding ⟨"w1", "w1", ["linux"]⟩]⟩ ∧
      Floor.Apart (⟨fun _ => {}, {}, [], ":", ""⟩ : Runner)
        [⟨"t", "linux", [⟨"s", [⟨"a", ["true"]⟩], []⟩], []⟩]
        { pool := { workers := [⟨"w1", "w1", ["linux"]⟩] } }
        [.cancel "t", .step 0 ⟨true, some (.ok ())⟩]
        ⟨{ pool := { workers := [⟨"w1", "w1", ["linux"]⟩], busy := ["w1"], directories := ["w1"] },
            cancelled := ["t"], live := ["t"] }, [.holding ⟨"w1", "w1", ["linux"]⟩]⟩ := by
  have claimed : ((⟨fun _ => {}, {}, [], ":", ""⟩ : Runner).advance
      ⟨"t", "linux", [⟨"s", [⟨"a", ["true"]⟩], []⟩], []⟩ .queued).run.run
      { pool := { workers := [⟨"w1", "w1", ["linux"]⟩] }, cancelled := ["t"], live := ["t"] } =
      (.ok (.holding ⟨"w1", "w1", ["linux"]⟩),
        { pool := { workers := [⟨"w1", "w1", ["linux"]⟩], busy := ["w1"], directories := ["w1"] },
          cancelled := ["t"], live := ["t"] }) :=
    advance_queued_of_acquired _ _ Pool.acquire_single_idle
  have sight : (⟨fun _ => {}, {}, [], ":", ""⟩ : Runner).sight
      ⟨"t", "linux", [⟨"s", [⟨"a", ["true"]⟩], []⟩], []⟩ .queued
      { pool := { workers := [⟨"w1", "w1", ["linux"]⟩] }, cancelled := ["t"], live := ["t"] } =
      ⟨true, some (.ok ())⟩ := by
    simp [Runner.sight, Pool.acquire_single_idle, Except.map]
  have run : Floor.Run (⟨fun _ => {}, {}, [], ":", ""⟩ : Runner)
      [⟨"t", "linux", [⟨"s", [⟨"a", ["true"]⟩], []⟩], []⟩]
      (Floor.start { pool := { workers := [⟨"w1", "w1", ["linux"]⟩] } }
        [⟨"t", "linux", [⟨"s", [⟨"a", ["true"]⟩], []⟩], []⟩])
      [.cancel "t", .step 0 ⟨true, some (.ok ())⟩]
      ⟨{ pool := { workers := [⟨"w1", "w1", ["linux"]⟩], busy := ["w1"], directories := ["w1"] },
          cancelled := ["t"], live := ["t"] }, [.holding ⟨"w1", "w1", ["linux"]⟩]⟩ := by
    exact .step (.cancel (by simp [Floor.start]))
      (.step (Floor.Step.step_seeing rfl rfl (.inr (by simp)) claimed sight) (.done _))
  exact ⟨run, interleaved_tracks_stay_apart run⟩

def siblingTracks : List Track :=
  [⟨"a", "linux", [⟨"s", [⟨"x", ["x"]⟩], []⟩], []⟩, ⟨"b", "linux", [⟨"s", [⟨"y", ["y"]⟩], []⟩], []⟩]

def idleRunner : Runner := ⟨fun _ => {}, {}, [], ":", ""⟩

/-- The track `b` is cancelled before it asks for the one worker, by the same request at the
same point of its run, under the same runner. Where its sibling already holds the worker, the
pool refuses `b` as cancelled while waiting; where the worker is idle, `b` is handed it and
ends cancelled before its stage. The two results differ in more than the worker. -/
theorem sibling_holding_worker_decides_cancelled_track :
    ∃ g₁ g₂ result₁ result₂,
      Floor.Run idleRunner siblingTracks
        (Floor.start { pool := { workers := [⟨"w1", "w1", ["linux"]⟩] } } siblingTracks)
        [.step 0 ⟨false, some (.ok ())⟩, .cancel "b",
          .step 1 ⟨true, some (.error (.cancelled "Cancelled while waiting for a 'linux' worker"))⟩] g₁ ∧
      Floor.Run idleRunner siblingTracks
        (Floor.start { pool := { workers := [⟨"w1", "w1", ["linux"]⟩] } } siblingTracks)
        [.cancel "b", .step 1 ⟨true, some (.ok ())⟩, .step 1 ⟨true, none⟩, .step 1 ⟨true, none⟩,
          .step 1 ⟨true, none⟩] g₂ ∧
      g₁.stands[1]? = some (.ended result₁) ∧ g₂.stands[1]? = some (.ended result₂) ∧
      result₁.error = some "Cancelled while waiting for a 'linux' worker" ∧
      result₂.error = some "Track b cancelled before stage s" ∧ ¬ result₁.Twin result₂ := by
  have claimedA : (idleRunner.advance ⟨"a", "linux", [⟨"s", [⟨"x", ["x"]⟩], []⟩], []⟩ .queued).run.run
      { pool := { workers := [⟨"w1", "w1", ["linux"]⟩] }, live := ["a", "b"] } =
      (.ok (.holding ⟨"w1", "w1", ["linux"]⟩),
        { pool := { workers := [⟨"w1", "w1", ["linux"]⟩], busy := ["w1"], directories := ["w1"] },
          live := ["a", "b"] }) :=
    advance_queued_of_acquired _ _ Pool.acquire_single_idle
  have refusedB : (idleRunner.advance ⟨"b", "linux", [⟨"s", [⟨"y", ["y"]⟩], []⟩], []⟩ .queued).run.run
      { pool := { workers := [⟨"w1", "w1", ["linux"]⟩], busy := ["w1"], directories := ["w1"] },
        live := ["a", "b"], cancelled := ["b"] } =
      (.ok (.ended (TrackResult.unstarted ⟨"b", "linux", [⟨"s", [⟨"y", ["y"]⟩], []⟩], []⟩ .cancelled
          "Cancelled while waiting for a 'linux' worker")),
        { pool := { workers := [⟨"w1", "w1", ["linux"]⟩], busy := ["w1"], directories := ["w1"] },
          live := ["a", "b"], cancelled := ["b"] }) :=
    advance_queued_of_cancelled _ _ Pool.acquire_single_busy
  have claimedB : (idleRunner.advance ⟨"b", "linux", [⟨"s", [⟨"y", ["y"]⟩], []⟩], []⟩ .queued).run.run
      { pool := { workers := [⟨"w1", "w1", ["linux"]⟩] }, live := ["a", "b"], cancelled := ["b"] } =
      (.ok (.holding ⟨"w1", "w1", ["linux"]⟩),
        { pool := { workers := [⟨"w1", "w1", ["linux"]⟩], busy := ["w1"], directories := ["w1"] },
          live := ["a", "b"], cancelled := ["b"] }) :=
    advance_queued_of_acquired _ _ Pool.acquire_single_idle
  refine ⟨_, _, _, _,
    .step (Floor.Step.step_seeing rfl rfl
        (.inl fun m => by simp [Floor.start, idleRunner, Pool.acquire_single_idle]) claimedA
        (by simp only [Runner.sight, Floor.start, idleRunner, Pool.acquire_single_idle]; rfl))
      (.step (.cancel (by simp))
      (.step (Floor.Step.step_seeing rfl rfl (.inr (by simp)) refusedB
        (by simp only [Runner.sight, idleRunner, Pool.acquire_single_busy]; rfl)) (.done _))),
    .step (.cancel (by simp [Floor.start, siblingTracks]))
      (.step (Floor.Step.step_seeing rfl rfl (.inr (by simp)) claimedB
        (by simp only [Runner.sight, Floor.start, idleRunner, Pool.acquire_single_idle]; rfl))
      (.step (Floor.Step.step_seeing rfl rfl trivial rfl rfl)
      (.step (Floor.Step.step_seeing rfl rfl trivial rfl rfl)
      (.step (Floor.Step.step_seeing rfl rfl trivial rfl rfl) (.done _))))),
    rfl, rfl, rfl, rfl, fun twin => ?_⟩
  exact absurd (congrArg TrackResult.error twin) (by decide)

end Conveyor.Pipeline
