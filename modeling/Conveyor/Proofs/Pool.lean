import Mathlib
import Conveyor.Workers.Pool

/-!
# Taking and giving back workers

What the pool's two operations do to the list of busy workers. A successful acquire hands
out a worker that was idle and appends its name to the busy list (creating the workspace
touches only directories), and a release drops every mention of the name. Releasing the
worker just acquired therefore gives back the busy list exactly as it was.

The last part follows a pool through any sequence of calls. Each call is answered by the
same contract whatever came before (`Pool.answers_acquire`): a request is refused as
unavailable exactly when no worker matches its selector, whatever is busy; otherwise the
first idle matching worker in pool order is handed out, marked busy and given its
workspace, or the failure to make that workspace is passed on with the pool unchanged; with
every matching worker busy the wait is cancelled, again with the pool unchanged. Along the
way the busy names stay names of the pool's workers (`Pool.serve_all_contract`).
-/

namespace Conveyor.Workers

set_option autoImplicit false

theorem Pool.make_directory_ok {p p' : Pool} {root path : String}
    (made : p.makeDirectory root path = .ok p') : ∃ directories, p' = { p with directories } := by
  unfold Pool.makeDirectory at made
  split at made
  · cases made
  · split at made
    · cases made
    · cases made
      exact ⟨_, rfl⟩

@[simp]
theorem Pool.release_busy (p : Pool) (name : String) :
    (p.release name).busy = p.busy.filter (· != name) := rfl

theorem Pool.acquire_ok {p p' : Pool} {root : String} {selector : Value} {w : Worker}
    (acquired : p.acquire root selector = .ok (w, p')) :
    w.name ∉ p.busy ∧ ∃ directories, p' = { p with busy := p.busy ++ [w.name], directories } := by
  unfold Pool.acquire at acquired
  cases matching : Pool.candidates p.workers selector with
  | error refusal =>
    rw [matching] at acquired
    cases acquired
  | ok candidates =>
    rw [matching] at acquired
    simp only [bind, Except.bind, throw, throwThe, MonadExceptOf.throw] at acquired
    split at acquired
    · cases acquired
    · rename_i found
      split at acquired
      · cases acquired
        rename_i made
        have idle : w.name ∉ p.busy := by simpa using List.find?_some found
        obtain ⟨directories, rfl⟩ := Pool.make_directory_ok made
        exact ⟨idle, directories, rfl⟩
      · cases acquired

theorem Pool.acquire_busy {p p' : Pool} {root : String} {selector : Value} {w : Worker}
    (acquired : p.acquire root selector = .ok (w, p')) :
    w.name ∉ p.busy ∧ p'.busy = p.busy ++ [w.name] := by
  obtain ⟨idle, directories, rfl⟩ := Pool.acquire_ok acquired
  exact ⟨idle, rfl⟩

theorem Pool.acquire_stock {p p' : Pool} {root : String} {selector : Value} {w : Worker}
    (acquired : p.acquire root selector = .ok (w, p')) :
    p'.workers = p.workers ∧ p'.files = p.files := by
  obtain ⟨-, directories, rfl⟩ := Pool.acquire_ok acquired
  exact ⟨rfl, rfl⟩

theorem Pool.release_acquired {p p' : Pool} {root : String} {selector : Value} {w : Worker}
    (acquired : p.acquire root selector = .ok (w, p')) :
    (p'.release w.name).busy = p.busy := by
  obtain ⟨idle, taken⟩ := Pool.acquire_busy acquired
  have others : ∀ n ∈ p.busy, (n != w.name) = true := by
    intro n mem
    have distinct : n ≠ w.name := fun same => idle (same ▸ mem)
    simpa using distinct
  rw [Pool.release_busy, taken, List.filter_append, List.filter_eq_self.mpr others]
  simp

/-- Until it is released, the worker just acquired stays busy: the busy list after the
acquire is one longer than before. -/
theorem Pool.acquire_busy_ne {p p' : Pool} {root : String} {selector : Value} {w : Worker}
    (acquired : p.acquire root selector = .ok (w, p')) : p'.busy ≠ p.busy := by
  intro same
  have longer := congrArg List.length (Pool.acquire_busy acquired).2
  rw [same, List.length_append] at longer
  simp at longer

theorem Pool.candidates_cases (workers : List Worker) (selector : Value) :
    (∃ candidates, Pool.candidates workers selector = .ok candidates ∧ candidates ≠ []) ∨
    (∃ f, Pool.candidates workers selector = .error (.selector f)) ∨
    (∃ m, Pool.candidates workers selector = .error (.unavailable m)) := by
  unfold Pool.candidates
  simp only [bind, Except.bind, pure, Except.pure, throw, throwThe, MonadExceptOf.throw]
  split
  · split
    · exact .inr (.inr ⟨_, rfl⟩)
    · rename_i nonempty
      exact .inl ⟨_, rfl, fun empty => nonempty (List.isEmpty_iff.mpr empty)⟩
  · exact .inr (.inl ⟨_, rfl⟩)

/-- With no worker busy, an acquire is never left waiting: it hands out a worker, or finds
none that matches, or fails on the selector or the workspace. -/
theorem Pool.acquire_ne_cancelled {p : Pool} (idle : p.busy = []) (root : String) (selector : Value)
    (message : String) : p.acquire root selector ≠ .error (.cancelled message) := by
  unfold Pool.acquire
  rcases Pool.candidates_cases p.workers selector with
    ⟨candidates, matching, nonempty⟩ | ⟨f, matching⟩ | ⟨m, matching⟩ <;> rw [matching]
  · simp only [bind, Except.bind, throw, throwThe, MonadExceptOf.throw]
    split
    · -- nothing is busy, so the first matching worker is idle
      rename_i none
      obtain ⟨candidate, mem⟩ := List.exists_mem_of_ne_nil _ nonempty
      exact absurd (by simp [idle]) (List.find?_eq_none.mp none candidate mem)
    · split <;> intro h <;> cases h
  · intro h
    cases h
  · intro h
    cases h

/-! ## The pool's answer to a request -/

/-- A pool in which every worker's workspace can be made: no plain file stands at a
workspace or at one of its parents. -/
def Pool.Makeable (p : Pool) : Prop :=
  ∀ worker ∈ p.workers, p.files.contains worker.workspace = false ∧
    (ancestors worker.workspace).any p.files.contains = false

theorem Pool.Makeable.of_stock {p q : Pool} (makeable : p.Makeable) (workers : q.workers = p.workers)
    (files : q.files = p.files) : q.Makeable := by
  unfold Pool.Makeable
  rw [workers, files]
  exact makeable

theorem Pool.make_directory_of_free (p : Pool) (root : String) {path : String}
    (free : p.files.contains path = false) (clear : (ancestors path).any p.files.contains = false) :
    ∃ p', p.makeDirectory root path = .ok p' := by
  unfold Pool.makeDirectory
  simp only [free, clear, Bool.false_eq_true, if_false]
  exact ⟨_, rfl⟩

theorem map_m_pairs_fst {α β ε : Type} (g : α → Except ε β) :
    ∀ {xs : List α} {pairs : List (α × β)},
      xs.mapM (fun x => (g x).map fun y => (x, y)) = .ok pairs → pairs.map Prod.fst = xs
  | [], pairs, mapped => by
    cases mapped
    rfl
  | x :: xs, pairs, mapped => by
    rw [List.mapM_cons] at mapped
    cases paired : g x with
    | error e =>
      rw [paired] at mapped
      cases mapped
    | ok y =>
      rw [paired] at mapped
      cases rest : xs.mapM (fun x => (g x).map fun y => (x, y)) with
      | error e =>
        rw [rest] at mapped
        cases mapped
      | ok others =>
        rw [rest] at mapped
        cases mapped
        rw [List.map_cons, map_m_pairs_fst g rest]

theorem Pool.mem_of_candidates {workers : List Worker} {selector : Value}
    {candidates : List Worker} (matching : Pool.candidates workers selector = .ok candidates) :
    ∀ w ∈ candidates, w ∈ workers := by
  unfold Pool.candidates at matching
  simp only [bind, Except.bind, pure, Except.pure, throw, throwThe, MonadExceptOf.throw] at matching
  split at matching
  · rename_i pairs mapped
    split at matching
    · cases matching
    · cases matching
      intro w mem
      obtain ⟨pair, inPairs, rfl⟩ := List.mem_map.mp mem
      rw [← map_m_pairs_fst _ mapped]
      exact List.mem_map_of_mem (List.mem_of_mem_filter inPairs)
  · cases matching

/-- A request that is not kept waiting, in a pool whose workspaces can all be made, is
answered from the workers alone: a worker when one matches, or the refusal of the selector. -/
theorem Pool.acquire_answer {p : Pool} {root : String} {selector : Value} (makeable : p.Makeable)
    (waiting : ∀ m, p.acquire root selector ≠ .error (.cancelled m)) :
    (p.acquire root selector).map (fun _ => ()) =
      (Pool.candidates p.workers selector).map (fun _ => ()) := by
  unfold Pool.acquire at waiting ⊢
  cases matching : Pool.candidates p.workers selector with
  | error refusal => rfl
  | ok candidates =>
    rw [matching] at waiting
    simp only [bind, Except.bind, throw, throwThe, MonadExceptOf.throw] at waiting ⊢
    cases found : candidates.find? fun w => !p.busy.contains w.name with
    | none =>
      rw [found] at waiting
      exact absurd rfl (waiting _)
    | some w =>
      have inPool := Pool.mem_of_candidates matching w (List.mem_of_find?_eq_some found)
      obtain ⟨_, made⟩ := Pool.make_directory_of_free { p with busy := p.busy ++ [w.name] } root
        (makeable w inPool).1 (makeable w inPool).2
      simp only [made]
      rfl

/-! ## Serving calls one after another -/

theorem Worker.matches_value_str (w : Worker) (selector : String) :
    w.matchesValue (.str selector) = .ok (w.matches selector) := by
  unfold Worker.matchesValue
  cases blank : selector.isEmpty with
  | false => simp [Value.isFalsy, blank]
  | true =>
    obtain rfl := String.isEmpty_iff.mp blank
    simp [Value.isFalsy, Worker.matches, Conveyor.Text.strip]

theorem Pool.pairs_str (workers : List Worker) (selector : String) :
    workers.mapM (fun w => (w.matchesValue (.str selector)).map fun m => (w, m)) =
      .ok (workers.map fun w => (w, w.matches selector)) := by
  simp only [Worker.matches_value_str]
  exact List.mapM_pure

theorem Pool.picked_str (workers : List Worker) (selector : String) :
    ((workers.map fun w => (w, w.matches selector)).filter (·.2)).map (·.1) =
      workers.filter (·.matches selector) := by
  simp [List.filter_map, Function.comp_def]

theorem Pool.candidates_of_matched {workers : List Worker} {selector : String}
    (some : workers.filter (·.matches selector) ≠ []) :
    Pool.candidates workers (.str selector) = .ok (workers.filter (·.matches selector)) := by
  unfold Pool.candidates
  simp only [Pool.pairs_str, Pool.picked_str, bind, Except.bind, pure, Except.pure, throw, throwThe,
    MonadExceptOf.throw]
  rw [if_neg (by simpa [List.isEmpty_iff] using some)]

theorem Pool.candidates_of_unmatched {workers : List Worker} {selector : String}
    (none : workers.filter (·.matches selector) = []) :
    ∃ m, Pool.candidates workers (.str selector) = .error (.unavailable m) := by
  unfold Pool.candidates
  simp only [Pool.pairs_str, Pool.picked_str, bind, Except.bind, pure, Except.pure, throw, throwThe,
    MonadExceptOf.throw, none, List.isEmpty_nil, if_true]
  exact ⟨_, rfl⟩

theorem Pool.make_directory_busy (p : Pool) (busy : List String) (root path : String) :
    ({ p with busy }).makeDirectory root path = (p.makeDirectory root path).map fun q => { q with busy } := by
  unfold Pool.makeDirectory
  dsimp only
  by_cases standing : p.files.contains path = true
  · rw [if_pos standing, if_pos standing]
    rfl
  · rw [if_neg standing, if_neg standing]
    by_cases blocked : (ancestors path).any p.files.contains = true
    · rw [if_pos blocked, if_pos blocked]
      rfl
    · rw [if_neg blocked, if_neg blocked]
      rfl

theorem Pool.make_directory_has_directory {p made : Pool} {root path : String}
    (making : p.makeDirectory root path = .ok made) : made.hasDirectory path = true := by
  unfold Pool.makeDirectory at making
  split at making
  · cases making
  · split at making
    · cases making
    · cases making
      simp [Pool.hasDirectory, List.mem_eraseDups]

theorem Pool.first_idle_candidates (p : Pool) (selector : String) :
    (p.workers.filter (·.matches selector)).find? (fun w => !p.busy.contains w.name) =
      p.workers.find? (fun w => w.matches selector && !p.busy.contains w.name) := by
  simp [List.find?_filter]

theorem Pool.acquire_of_unmatched {p : Pool} (root : String) {selector : String}
    (unmatched : ∀ w ∈ p.workers, w.matches selector = false) :
    ∃ m, p.acquire root (.str selector) = .error (.unavailable m) := by
  obtain ⟨m, refused⟩ := Pool.candidates_of_unmatched (by simpa [List.filter_eq_nil_iff] using unmatched)
  unfold Pool.acquire
  rw [refused]
  exact ⟨m, rfl⟩

theorem Pool.acquire_of_waiting {p : Pool} (root : String) {selector : String}
    (some : p.workers.filter (·.matches selector) ≠ [])
    (allBusy : p.workers.find? (fun w => w.matches selector && !p.busy.contains w.name) = none) :
    ∃ m, p.acquire root (.str selector) = .error (.cancelled m) := by
  unfold Pool.acquire
  rw [Pool.candidates_of_matched some]
  simp only [bind, Except.bind, throw, throwThe, MonadExceptOf.throw, Pool.first_idle_candidates, allBusy]
  exact ⟨_, rfl⟩

theorem Pool.picked_of_first {p : Pool} {selector : String} {w : Worker}
    (first : p.workers.find? (fun w => w.matches selector && !p.busy.contains w.name) = some w) :
    p.workers.filter (·.matches selector) ≠ [] := by
  have picks : w.matches selector = true := (Bool.and_eq_true _ _ ▸ List.find?_some first).1
  exact List.ne_nil_of_mem (List.mem_filter.mpr ⟨List.mem_of_find?_eq_some first, picks⟩)

theorem Pool.acquire_of_first_idle {p made : Pool} (root : String) {selector : String} {w : Worker}
    (first : p.workers.find? (fun w => w.matches selector && !p.busy.contains w.name) = some w)
    (making : p.makeDirectory root w.workspace = .ok made) :
    p.acquire root (.str selector) = .ok (w, { made with busy := p.busy ++ [w.name] }) := by
  unfold Pool.acquire
  rw [Pool.candidates_of_matched (Pool.picked_of_first first)]
  simp only [bind, Except.bind, Pool.first_idle_candidates, first, Pool.make_directory_busy, making]
  rfl

theorem Pool.acquire_of_unmakeable {p : Pool} (root : String) {selector : String} {w : Worker}
    {f : Fault} (first : p.workers.find? (fun w => w.matches selector && !p.busy.contains w.name) = some w)
    (failing : p.makeDirectory root w.workspace = .error f) :
    p.acquire root (.str selector) = .error (.workspace f) := by
  unfold Pool.acquire
  rw [Pool.candidates_of_matched (Pool.picked_of_first first)]
  simp only [bind, Except.bind, Pool.first_idle_candidates, first, Pool.make_directory_busy, failing]
  rfl

/-- A text selector is never refused as a selector: the request is refused as unavailable,
kept waiting, granted, or fails on the workspace. -/
theorem Pool.acquire_str_ne_selector (p : Pool) (root selector : String) (f : Fault) :
    p.acquire root (.str selector) ≠ .error (.selector f) := by
  by_cases unmatched : p.workers.filter (·.matches selector) = []
  · obtain ⟨m, refused⟩ := Pool.acquire_of_unmatched root (p := p)
      (by simpa [List.filter_eq_nil_iff] using unmatched)
    rw [refused]
    intro same
    cases same
  · cases first : p.workers.find? (fun w => w.matches selector && !p.busy.contains w.name) with
    | none =>
      obtain ⟨m, waiting⟩ := Pool.acquire_of_waiting root unmatched first
      rw [waiting]
      intro same
      cases same
    | some w =>
      cases making : p.makeDirectory root w.workspace with
      | ok made =>
        rw [Pool.acquire_of_first_idle root first making]
        intro same
        cases same
      | error g =>
        rw [Pool.acquire_of_unmakeable root first making]
        intro same
        cases same

theorem Pool.serve_of_granted {p q : Pool} {root selector : String} {w : Worker}
    (acquired : p.acquire root (.str selector) = .ok (w, q)) :
    p.serve root (.acquire selector) = (.granted w, q) := by
  simp only [Pool.serve, acquired]

theorem Pool.serve_of_refused {p : Pool} {root selector : String} {e : AcquireError}
    (refused : p.acquire root (.str selector) = .error e) :
    p.serve root (.acquire selector) = (.refused e, p) := by
  simp only [Pool.serve, refused]

@[simp]
theorem Pool.serve_release (root name : String) (p : Pool) :
    p.serve root (.release name) = (.released, p.release name) := rfl

/-- How the pool answers a request for a worker that matches a selector. -/
structure Pool.AnswersAcquire (root selector : String) (p : Pool) : Prop where
  /-- Refused as unavailable exactly when no worker matches, whatever is busy. -/
  unavailable_iff : (∃ m, (p.serve root (.acquire selector)).1 = .refused (.unavailable m)) ↔
    ∀ w ∈ p.workers, w.matches selector = false
  /-- The first idle matching worker, in pool order, is handed out, marked busy, and its
  workspace exists afterwards. -/
  granted : ∀ w made, p.workers.find? (fun w => w.matches selector && !p.busy.contains w.name) = some w →
    p.makeDirectory root w.workspace = .ok made →
    (p.serve root (.acquire selector)).1 = .granted w ∧ w.name ∉ p.busy ∧
      (∀ n, n ∈ (p.serve root (.acquire selector)).2.busy ↔ n ∈ p.busy ∨ n = w.name) ∧
      (p.serve root (.acquire selector)).2.hasDirectory w.workspace = true
  /-- When that worker's workspace cannot be made, the failure is passed on and the pool
  stays as it was. -/
  unmade : ∀ w f, p.workers.find? (fun w => w.matches selector && !p.busy.contains w.name) = some w →
    p.makeDirectory root w.workspace = .error f →
    p.serve root (.acquire selector) = (.refused (.workspace f), p)
  /-- With every matching worker busy the wait is cancelled and the pool stays as it was. -/
  cancelled : (∃ w ∈ p.workers, w.matches selector = true) →
    (∀ w ∈ p.workers, w.matches selector = true → w.name ∈ p.busy) →
    ∃ m, p.serve root (.acquire selector) = (.refused (.cancelled m), p)

/-- A request that some worker matches is never refused as unavailable: it is granted, or
its wait is cancelled, or its workspace fails. -/
theorem Pool.serve_ne_unavailable {p : Pool} (root : String) {selector : String} {w : Worker}
    (mem : w ∈ p.workers) (picks : w.matches selector = true) (m : String) :
    (p.serve root (.acquire selector)).1 ≠ .refused (.unavailable m) := by
  have some : p.workers.filter (·.matches selector) ≠ [] :=
    List.ne_nil_of_mem (List.mem_filter.mpr ⟨mem, picks⟩)
  cases first : p.workers.find? (fun w => w.matches selector && !p.busy.contains w.name) with
  | none =>
    obtain ⟨m', waiting⟩ := Pool.acquire_of_waiting root some first
    rw [Pool.serve_of_refused waiting]
    intro same
    cases same
  | some found =>
    cases making : p.makeDirectory root found.workspace with
    | ok made =>
      rw [Pool.serve_of_granted (Pool.acquire_of_first_idle root first making)]
      intro same
      cases same
    | error f =>
      rw [Pool.serve_of_refused (Pool.acquire_of_unmakeable root first making)]
      intro same
      cases same

theorem Pool.answers_acquire (root selector : String) (p : Pool) : p.AnswersAcquire root selector where
  unavailable_iff := by
    constructor
    · rintro ⟨m, refused⟩ w mem
      by_contra picks
      exact Pool.serve_ne_unavailable root mem (by simpa using picks) m refused
    · intro unmatched
      obtain ⟨m, refused⟩ := Pool.acquire_of_unmatched root unmatched
      exact ⟨m, by rw [Pool.serve_of_refused refused]⟩
  granted := by
    intro w made first making
    have found := List.find?_some first
    have idle : w.name ∉ p.busy := by
      simp only [Bool.and_eq_true, Bool.not_eq_eq_eq_not, Bool.not_true,
        List.contains_eq_mem, decide_eq_false_iff_not] at found
      exact found.2
    rw [Pool.serve_of_granted (Pool.acquire_of_first_idle root first making)]
    refine ⟨rfl, idle, fun n => by simp, ?_⟩
    simpa [Pool.hasDirectory] using Pool.make_directory_has_directory making
  unmade := by
    intro w f first failing
    exact Pool.serve_of_refused (Pool.acquire_of_unmakeable root first failing)
  cancelled := by
    rintro ⟨w, mem, picks⟩ allBusy
    have some : p.workers.filter (·.matches selector) ≠ [] :=
      List.ne_nil_of_mem (List.mem_filter.mpr ⟨mem, picks⟩)
    have none : p.workers.find? (fun w => w.matches selector && !p.busy.contains w.name) = none := by
      rw [List.find?_eq_none]
      intro v inPool
      simpa using allBusy v inPool
    obtain ⟨m, waiting⟩ := Pool.acquire_of_waiting root some none
    exact ⟨m, Pool.serve_of_refused waiting⟩

theorem Pool.serve_release_busy (root name : String) (p : Pool) (n : String) :
    n ∈ (p.serve root (.release name)).2.busy ↔ n ∈ p.busy ∧ n ≠ name := by
  simp

theorem Pool.acquire_mem {p p' : Pool} {root : String} {selector : Value} {w : Worker}
    (acquired : p.acquire root selector = .ok (w, p')) : w ∈ p.workers := by
  unfold Pool.acquire at acquired
  cases matching : Pool.candidates p.workers selector with
  | error refusal =>
    rw [matching] at acquired
    cases acquired
  | ok candidates =>
    rw [matching] at acquired
    simp only [bind, Except.bind, throw, throwThe, MonadExceptOf.throw] at acquired
    split at acquired
    · cases acquired
    · rename_i found
      split at acquired
      · cases acquired
        exact Pool.mem_of_candidates matching w (List.mem_of_find?_eq_some found)
      · cases acquired

@[simp]
theorem Pool.serve_workers (root : String) (p : Pool) (call : Pool.Request) :
    (p.serve root call).2.workers = p.workers := by
  cases call with
  | acquire selector =>
    rcases acquired : p.acquire root (.str selector) with refusal | ⟨w, q⟩
    · rw [Pool.serve_of_refused acquired]
    · rw [Pool.serve_of_granted acquired]
      exact (Pool.acquire_stock acquired).1
  | release name => rfl

@[simp]
theorem Pool.serve_all_workers (root : String) (p : Pool) (calls : List Pool.Request) :
    (p.serveAll root calls).2.workers = p.workers := by
  induction calls generalizing p with
  | nil => rfl
  | cons call rest ih =>
    simp only [Pool.serveAll, ih, Pool.serve_workers]

def Pool.BusyConfigured (p : Pool) : Prop :=
  ∀ n ∈ p.busy, ∃ w ∈ p.workers, w.name = n

/-- Serving a call keeps the busy names among the workers' names: an acquire adds the name
of a worker of the pool, a release only removes names. -/
theorem Pool.BusyConfigured.serve {p : Pool} (configured : p.BusyConfigured) (root : String)
    (call : Pool.Request) : (p.serve root call).2.BusyConfigured := by
  intro n busy
  rw [Pool.serve_workers]
  cases call with
  | acquire selector =>
    rcases acquired : p.acquire root (.str selector) with refusal | ⟨w, q⟩
    · rw [Pool.serve_of_refused acquired] at busy
      exact configured n busy
    · rw [Pool.serve_of_granted acquired, (Pool.acquire_busy acquired).2] at busy
      rcases List.mem_append.mp busy with before | added
      · exact configured n before
      · exact ⟨w, Pool.acquire_mem acquired, (List.mem_singleton.mp added).symm⟩
  | release name =>
    exact configured n (List.mem_of_mem_filter busy)

theorem Pool.BusyConfigured.serve_all {p : Pool} (configured : p.BusyConfigured) (root : String)
    (calls : List Pool.Request) : (p.serveAll root calls).2.BusyConfigured := by
  induction calls generalizing p with
  | nil => exact configured
  | cons call rest ih => exact ih (configured.serve root call)

theorem Pool.make_ok {workers : List Worker} {files : List String} {p : Pool}
    (made : Pool.make workers files = .ok p) : p = { workers, files } := by
  unfold Pool.make at made
  dsimp only at made
  split at made
  · cases made
    rfl
  · cases made

/-- A pool made from distinct workers, after any calls: its workers are the configured ones,
every busy name is a configured worker's, every request for a worker is answered by the
contract, and a release takes exactly the released name out of the busy ones. -/
theorem Pool.serve_all_contract {workers : List Worker} {files : List String} {p : Pool}
    (made : Pool.make workers files = .ok p) (root : String) (calls : List Pool.Request) :
    (p.serveAll root calls).2.workers = workers ∧
      (∀ n ∈ (p.serveAll root calls).2.busy, ∃ w ∈ workers, w.name = n) ∧
      (∀ selector, (p.serveAll root calls).2.AnswersAcquire root selector) ∧
      (∀ name n, n ∈ ((p.serveAll root calls).2.serve root (.release name)).2.busy ↔
        n ∈ (p.serveAll root calls).2.busy ∧ n ≠ name) := by
  obtain rfl := Pool.make_ok made
  have fresh : ({ workers, files } : Pool).BusyConfigured := fun n idle => by cases idle
  have configured : ∀ n ∈ (Pool.serveAll root { workers, files } calls).2.busy,
      ∃ w ∈ workers, w.name = n := by
    have kept := fresh.serve_all root calls
    unfold Pool.BusyConfigured at kept
    rwa [Pool.serve_all_workers] at kept
  exact ⟨Pool.serve_all_workers root _ calls, configured,
    fun selector => Pool.answers_acquire root selector _,
    fun name n => Pool.serve_release_busy root name _ n⟩

/-- A pool of one worker, after taking and giving back that worker. -/
theorem Pool.serve_all_contract_single_worker :
    Pool.make [⟨"w1", "w1", ["linux"]⟩] [] = .ok { workers := [⟨"w1", "w1", ["linux"]⟩], files := [] } ∧
      let after := (({ workers := [⟨"w1", "w1", ["linux"]⟩], files := [] } : Pool).serveAll "<root>"
        [.acquire "linux", .release "w1", .acquire "w1"]).2
      after.workers = [⟨"w1", "w1", ["linux"]⟩] ∧
      (∀ n ∈ after.busy, ∃ w ∈ [(⟨"w1", "w1", ["linux"]⟩ : Worker)], w.name = n) ∧
      (∀ selector, after.AnswersAcquire "<root>" selector) ∧
      (∀ name n, n ∈ (after.serve "<root>" (.release name)).2.busy ↔ n ∈ after.busy ∧ n ≠ name) :=
  have made : Pool.make [⟨"w1", "w1", ["linux"]⟩] [] =
      .ok { workers := [⟨"w1", "w1", ["linux"]⟩], files := [] } := by
    have distinct : (Text.duplicates ["w1"]).isEmpty = true := by cbv
    simp only [Pool.make, List.map_cons, List.map_nil]
    rw [if_pos distinct]
  ⟨made, Pool.serve_all_contract made "<root>" [.acquire "linux", .release "w1", .acquire "w1"]⟩

theorem Pool.acquire_single_idle :
    ({ workers := [⟨"w1", "w1", ["linux"]⟩] } : Pool).acquire "" (.str "linux") =
      .ok (⟨"w1", "w1", ["linux"]⟩,
        { workers := [⟨"w1", "w1", ["linux"]⟩], busy := ["w1"], directories := ["w1"] }) := by
  cbv

set_option maxRecDepth 20000 in
theorem Pool.acquire_single_busy :
    ({ workers := [⟨"w1", "w1", ["linux"]⟩], busy := ["w1"], directories := ["w1"] } : Pool).acquire
      "" (.str "linux") = .error (.cancelled "Cancelled while waiting for a 'linux' worker") := by
  cbv

end Conveyor.Workers
