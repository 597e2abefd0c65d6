import Conveyor.Proofs.ReaderResults

/-!
# What a whole configuration's readers hand back

The postconditions of the readers carry over nested sections and lists of sections, then to
the readers of each part of a run configuration, and last to a whole configuration read from
a value (`RunConfig.of_value_wellformed`, `RunConfig.of_value_refusal_kinds`).
-/

namespace Conveyor.Config

open Conveyor.Env Conveyor.Text

set_option autoImplicit false

variable {α β : Type}

theorem open_child_refusal {s t : Section} {K : String} {d : Option Value} {e : ConfigError}
    (refused : s.openChild (.str K) d = (.error e, t)) : e.kind = .typeError ∨ e.kind = .valueError := by
  obtain ⟨k, trimmed⟩ : ∃ k, (if (Value.str K).isFalsy then Except.ok "" else Section.trimKey (.str K) :
      Except ConfigError String) = .ok k := by
    by_cases falsy : (Value.str K).isFalsy = true
    · exact ⟨"", by simp [falsy]⟩
    · exact ⟨strip K, by simp [falsy, Section.trimKey]⟩
  unfold Section.openChild at refused
  simp only [trimmed] at refused
  by_cases blank : k.isEmpty = true
  · simp only [blank, if_true, Prod.mk.injEq, Except.error.injEq] at refused
    obtain ⟨rfl, -⟩ := refused
    exact .inl rfl
  simp only [blank, Bool.false_eq_true, if_false] at refused
  cases opened : s.children.lookup k with
  | some c => simp [opened] at refused
  | none =>
    simp only [opened] at refused
    split at refused
    · -- the value found, or the default, is no mapping
      rename_i e' entries
      simp only [Prod.mk.injEq, Except.error.injEq] at refused
      obtain ⟨rfl, -⟩ := refused
      split at entries
      · split at entries
        · cases entries
          exact .inr rfl
        · cases entries
        · split at entries
          · cases entries
          · cases entries
            exact .inl rfl
      · split at entries
        · cases entries
        · cases entries
          exact .inl rfl
    · cases refused

/-- A nested section read with a reader refuses as that reader does, or as a type or a
value fault when it cannot be opened, and hands back what that reader hands back. -/
theorem ensures_read_nested {P : α → Prop} {K : String} {d : Option Value} {m : Reading α}
    (inner : Ensures P SettingsError.Plain m) : Ensures P SettingsError.Plain (readNested K d m) := by
  refine Ensures.bind (P := fun _ => True) (Ensures.read_with (fun _ _ _ _ => trivial)
    fun _ _ _ refused => SettingsError.plain_reading (open_child_refusal refused)) fun k _ => ?_
  intro s
  dsimp only
  split
  · rename_i a c ran
    refine ⟨fun b u run => ?_, fun e run => by cases run⟩
    cases run
    exact (inner _).1 a c ran
  · rename_i e ran
    refine ⟨fun b u run => (by cases run), fun e' run => ?_⟩
    cases run
    exact (inner _).2 e ran

theorem raw_refusal {s t : Section} {key : Value} {d : Option Value} {e : ConfigError}
    (refused : s.raw key d = (.error e, t)) : e.kind = .typeError ∨ e.kind = .valueError := by
  cases key with
  | str k =>
    simp only [Section.raw] at refused
    by_cases blank : (strip k).isEmpty = true
    · simp only [blank, if_true, Prod.mk.injEq, Except.error.injEq] at refused
      obtain ⟨rfl, -⟩ := refused
      exact .inl rfl
    simp only [blank, Bool.false_eq_true, if_false] at refused
    split at refused
    · simp only [Prod.mk.injEq, Except.error.injEq] at refused
      obtain ⟨rfl, -⟩ := refused
      exact .inr rfl
    split at refused
    · cases refused
    split at refused
    · cases refused
    · simp only [Prod.mk.injEq, Except.error.injEq] at refused
      obtain ⟨rfl, -⟩ := refused
      exact .inr rfl
  | _ =>
    simp only [Section.raw, Prod.mk.injEq, Except.error.injEq] at refused
    obtain ⟨rfl, -⟩ := refused
    exact .inl rfl

theorem exists_of_map_m_eq_error {γ δ ε : Type} {f : γ → Except ε δ} {xs : List γ} {e : ε}
    (refused : xs.mapM f = .error e) : ∃ x ∈ xs, f x = .error e := by
  induction xs with
  | nil => cases refused
  | cons x rest ih =>
    rw [List.mapM_cons] at refused
    cases first : f x with
    | error e' =>
      simp only [first, bind, Except.bind, Except.error.injEq] at refused
      exact ⟨x, List.mem_cons_self, refused ▸ first⟩
    | ok y =>
      cases later : rest.mapM f with
      | error e' =>
        simp only [first, later, bind, Except.bind, Except.error.injEq] at refused
        obtain ⟨z, mem, found⟩ := ih (refused ▸ later)
        exact ⟨z, List.mem_cons_of_mem _ mem, found⟩
      | ok ys => simp [first, later, bind, Except.bind, pure, Except.pure] at refused

theorem section_list_refusal {s t : Section} {K : String} {allowEmpty : Bool} {e : ConfigError}
    (refused : s.sectionList (.str K) none allowEmpty = (.error e, t)) :
    e.kind = .typeError ∨ e.kind = .valueError := by
  change Section.sectionList.go s (.str K) none allowEmpty = _ at refused
  unfold Section.sectionList.go at refused
  dsimp only at refused
  rcases listed : s.raw (.str K) none with ⟨_ | v, s2⟩
  · rw [listed] at refused
    cases refused
    exact raw_refusal listed
  rw [listed] at refused
  dsimp only at refused
  split at refused
  · split at refused
    · -- an item is no mapping
      rename_i built
      cases refused
      obtain ⟨item, -, opened⟩ := exists_of_map_m_eq_error built
      split at opened
      · cases opened
      · cases opened
        exact .inl rfl
    · split at refused
      · cases refused
        exact .inr rfl
      · cases refused
  · cases refused
    exact .inl rfl

theorem read_each_results {P : α → Prop} {Q : SettingsError → Prop} {m : Reading α}
    (inner : Ensures P Q m) (sections : List Section) :
    (∀ as cs, readEach m sections = .ok (as, cs) → (∀ a ∈ as, P a) ∧ as.length = sections.length) ∧
      ∀ e, readEach m sections = .error e → Q e := by
  induction sections with
  | nil =>
    refine ⟨fun as cs run => ?_, fun e run => by cases run⟩
    cases run
    simp
  | cons c rest ih =>
    simp only [readEach]
    cases first : m c with
    | error e =>
      refine ⟨fun as cs run => (by cases run), fun e' run => ?_⟩
      cases run
      exact (inner c).2 e first
    | ok r =>
      obtain ⟨a, c2⟩ := r
      cases later : readEach m rest with
      | error e =>
        refine ⟨fun as cs run => (by cases run), fun e' run => ?_⟩
        cases run
        exact ih.2 e later
      | ok r' =>
        obtain ⟨as, cs⟩ := r'
        obtain ⟨each, length⟩ := ih.1 as cs later
        refine ⟨fun as' cs' run => ?_, fun e' run => by cases run⟩
        cases run
        refine ⟨fun b mem => ?_, by simp [length]⟩
        rcases List.mem_cons.mp mem with rfl | inRest
        · exact (inner c).1 b c2 first
        · exact each b inRest

theorem ItemsRead.values {P : α → Prop} {Q : SettingsError → Prop} {m : Reading α} {path : String}
    (inner : Ensures P Q m) {n : Nat} {xs : List Value} {as : List α} {cs : List Section}
    (read : ItemsRead m path n xs as cs) : (∀ a ∈ as, P a) ∧ as.length = xs.length := by
  induction read with
  | nil => simp
  | cons _ ran _ ih =>
    refine ⟨fun a mem => ?_, by simp [ih.2]⟩
    rcases List.mem_cons.mp mem with rfl | later
    · exact (inner _).1 _ _ ran
    · exact ih.1 a later

/-- A required list of sections read with a reader hands back one value of that reader per
section, at least one; it refuses as that reader does, or as a type or a value fault. -/
theorem ensures_read_items {P : α → Prop} {K : String} (stripped : strip K = K)
    (nonblank : K.isEmpty = false) {m : Reading α} (inner : Ensures P SettingsError.Plain m) :
    Ensures (fun as => (∀ a ∈ as, P a) ∧ as ≠ []) SettingsError.Plain (readItems K m) := by
  intro s
  refine ⟨fun as t run => ?_, fun e run => ?_⟩
  · obtain ⟨v, xs, cs, -, -, nonempty, read, -⟩ := read_items_eq_ok stripped nonblank run
    obtain ⟨each, length⟩ := read.values inner
    refine ⟨each, fun empty => nonempty ?_⟩
    rw [empty, List.length_nil, eq_comm, List.length_eq_zero_iff] at length
    exact length
  · -- the list itself is refused, or one of its items
    have refusals : Ensures (fun _ => True) SettingsError.Plain (readItems K m) := by
      refine Ensures.bind (P := fun _ => True) (Ensures.read_with (fun _ _ _ _ => trivial)
        fun _ _ _ refused => SettingsError.plain_reading (section_list_refusal refused)) fun _ _ => ?_
      intro s'
      dsimp only
      split
      · exact ⟨fun _ _ _ => trivial, fun e' run => by cases run⟩
      · rename_i e' ran
        refine ⟨fun _ _ _ => trivial, fun e'' run => ?_⟩
        cases run
        exact (read_each_results inner _).2 e' ran
    exact (refusals s).2 e run

/-! ## The readers of a run configuration -/

theorem ensures_read_stage : Ensures StageSettings.Wellformed SettingsError.Plain readStage := by
  refine Ensures.bind (ensures_read_text (by decide) rfl (.inl rfl)) fun name trimmedName => ?_
  refine Ensures.bind (ensures_read_texts (by decide) rfl (.inl rfl) false) fun actions read => ?_
  refine Ensures.bind (ensures_read_flag (by decide) rfl true) fun toolchainEnv _ => ?_
  exact Ensures.bind (ensures_read_bindings (by decide) rfl) fun env binds =>
    Ensures.pure ⟨trimmedName, read.2 rfl, read.1, binds⟩

theorem ensures_read_track :
    Ensures (fun read => read.1.Wellformed) SettingsError.Plain readTrack := by
  refine Ensures.bind (ensures_read_text (by decide) rfl (.inl rfl)) fun name trimmedName => ?_
  refine Ensures.bind (ensures_read_flag (by decide) rfl true) fun checkout _ => ?_
  refine Ensures.bind (ensures_read_items (by decide) rfl ensures_read_stage) fun stages read => ?_
  refine Ensures.bind Ensures.section_path fun path _ => ?_
  dsimp only
  refine Ensures.guard (.inr (.inl rfl)) fun distinct => Ensures.guard (.inr (.inl rfl)) fun free => ?_
  refine Ensures.bind (ensures_read_text (by decide) rfl (.inl rfl)) fun node trimmedNode => ?_
  refine Ensures.bind (ensures_read_bindings (by decide) rfl) fun env binds => Ensures.pure ?_
  refine ⟨trimmedName, trimmedNode, read.2, read.1, ?_, fun checksOut named => free ?_, binds⟩
  · simpa using distinct
  · dsimp only at checksOut named
    simp only [checksOut, Bool.true_and]
    simpa using named

theorem ensures_read_worker : Ensures (fun _ => True) SettingsError.Plain readWorker := by
  refine Ensures.bind (ensures_read_text (by decide) rfl (.inl rfl)) fun name _ => ?_
  exact Ensures.bind (ensures_read_texts (by decide) rfl (.inl rfl) false) fun labels _ =>
    Ensures.pure trivial

theorem ensures_read_run_settings (env : Vars) :
    Ensures (fun _ => True) SettingsError.Plain (readRunSettings env) := by
  refine Ensures.bind (ensures_read_text (by decide) rfl (.inr (.inr ⟨_, rfl⟩))) fun _ _ => ?_
  refine Ensures.bind (ensures_read_text (by decide) rfl (.inr (.inr ⟨_, rfl⟩))) fun _ _ => ?_
  refine Ensures.bind (ensures_read_text (by decide) rfl (.inr (.inr ⟨_, rfl⟩))) fun _ _ => ?_
  exact Ensures.bind (ensures_read_number (by decide) rfl _ _) fun _ _ => Ensures.pure trivial

theorem ensures_read_source_settings :
    Ensures (fun _ => True) SettingsError.Plain readSourceSettings := by
  refine Ensures.bind (ensures_read_opt_text (by decide) rfl (.inr (.inl rfl))) fun _ _ => ?_
  exact Ensures.bind (ensures_read_text (by decide) rfl (.inr (.inr ⟨_, rfl⟩))) fun _ _ =>
    Ensures.pure trivial

theorem ensures_read_toolchain_settings :
    Ensures (fun t => ∀ b ∈ t.extraEnv, Binds b) SettingsError.Plain readToolchainSettings := by
  refine Ensures.bind (ensures_read_text (by decide) rfl (.inr (.inr ⟨_, rfl⟩))) fun _ _ => ?_
  exact Ensures.bind (ensures_read_bindings (by decide) rfl) fun _ binds => Ensures.pure binds

theorem ensures_read_workers_settings (env : Vars) :
    Ensures (fun _ => True) SettingsError.Plain (readWorkersSettings env) := by
  refine Ensures.bind (ensures_read_items (by decide) rfl ensures_read_worker) fun nodes _ => ?_
  dsimp only
  refine Ensures.guard (.inr (.inl rfl)) fun _ => ?_
  exact Ensures.bind (ensures_read_text (by decide) rfl (.inr (.inr ⟨_, rfl⟩))) fun _ _ =>
    Ensures.pure trivial

theorem ensures_read_settings (env : Vars) :
    Ensures (fun read => (∀ b ∈ read.2.2.1.extraEnv, Binds b) ∧ ∀ t ∈ read.2.2.2.2, t.1.Wellformed)
      SettingsError.Plain (readSettings env) := by
  refine Ensures.bind (ensures_read_nested (ensures_read_run_settings env)) fun run _ => ?_
  refine Ensures.bind (ensures_read_nested ensures_read_source_settings) fun source _ => ?_
  refine Ensures.bind (ensures_read_nested ensures_read_toolchain_settings) fun toolchain binds => ?_
  refine Ensures.bind (ensures_read_nested (ensures_read_workers_settings env)) fun workers _ => ?_
  refine Ensures.bind (ensures_read_items (by decide) rfl ensures_read_track) fun read tracks => ?_
  dsimp only
  refine Ensures.guard (.inr (.inl rfl)) fun _ => ?_
  split
  · exact Ensures.throw_bind (.inr (.inl rfl))
  · exact Ensures.pure ⟨binds, tracks.1⟩

/-! ## A whole configuration -/

def ConfigError.NamesUnread (e : ConfigError) : Prop :=
  ∃ path unknown consumed, e = .unknownKeys path unknown consumed

theorem refusal_of_seq {R : ConfigError → Prop} {x y : Except ConfigError Unit}
    (first : ∀ e, x = .error e → R e) (next : ∀ e, y = .error e → R e) (e : ConfigError)
    (refused : (x >>= fun _ => y) = .error e) : R e := by
  cases checked : x with
  | error e' =>
    rw [checked] at refused
    cases refused
    exact first _ checked
  | ok _ =>
    rw [checked] at refused
    exact next _ refused

theorem Section.assert_consumed_refusal (s : Section) :
    ∀ e, s.assertConsumed = .error e → e.NamesUnread := by
  -- one motive for each function of the mutual block: a section, its lists of sections,
  -- one list of sections, its children
  apply Section.assertConsumed.induct (fun s => ∀ e, s.assertConsumed = .error e → e.NamesUnread)
    (fun items => ∀ e, Section.assertItems items = .error e → e.NamesUnread)
    (fun list => ∀ e, Section.assertList list = .error e → e.NamesUnread)
    (fun children => ∀ e, Section.assertChildren children = .error e → e.NamesUnread)
  case case1 =>
    intro data others path consumed children items effective unknown nonEmpty _ _ e refused
    rw [Section.assertConsumed] at refused
    dsimp only at nonEmpty refused
    rw [if_pos nonEmpty] at refused
    cases refused
    exact ⟨_, _, _, rfl⟩
  case case2 =>
    intro data others path consumed children items effective unknown empty inChildren inItems e refused
    rw [Section.assertConsumed] at refused
    dsimp only at empty refused
    rw [if_neg empty] at refused
    exact refusal_of_seq inChildren inItems e refused
  case case3 => intro e refused; cases refused
  case case4 =>
    intro _ c rest inSection inRest e refused
    rw [Section.assertChildren] at refused
    exact refusal_of_seq inSection inRest e refused
  case case5 => intro e refused; cases refused
  case case6 =>
    intro _ list rest inList inRest e refused
    rw [Section.assertItems] at refused
    exact refusal_of_seq inList inRest e refused
  case case7 => intro e refused; cases refused
  case case8 =>
    intro c rest inSection inRest e refused
    rw [Section.assertList] at refused
    exact refusal_of_seq inSection inRest e refused

theorem ensures_read_run_config (env : Vars) :
    Ensures (fun read => read.1.Wellformed) SettingsError.Plain (readRunConfig env) := by
  refine Ensures.bind (ensures_read_settings env) fun settings wellformed => ?_
  obtain ⟨run, source, toolchain, workers, read⟩ := settings
  refine Ensures.bind Ensures.get fun root _ => ?_
  dsimp only
  have formed : RunConfig.Wellformed
      { run, source, toolchain, workers, tracks := read.map (·.1), effective := root.effectiveValues } :=
    ⟨wellformed.1, by simpa using wellformed.2⟩
  cases checked : root.assertConsumed with
  | error e =>
    obtain ⟨path, unknown, consumed, rfl⟩ := Section.assert_consumed_refusal root e checked
    exact Ensures.throw_bind (SettingsError.plain_reading (.inr rfl))
  | ok _ => exact Ensures.pure formed

/-- A value is read as a configuration by `readRunConfig`, once it is a mapping: what that
reader ensures holds of what the value reads as. -/
theorem RunConfig.of_value_ensures {env : Vars} {P : RunConfig × List String → Prop}
    {Q : SettingsError → Prop} (reads : Ensures P Q (readRunConfig env)) (v : Value) :
    (∀ r, RunConfig.ofValue env v = .ok r → P r) ∧
      ∀ e, RunConfig.ofValue env v = .error e → Q e ∨ e = .notMapping v.kindName := by
  unfold RunConfig.ofValue
  cases entries : v.entries? with
  | none =>
    refine ⟨fun r accepted => ?_, fun e refused => ?_⟩
    · cases accepted
    · cases refused
      exact .inr rfl
  | some entries' =>
    dsimp only
    cases run : (readRunConfig env).run (Section.ofEntries entries' "") with
    | error e =>
      refine ⟨fun r accepted => ?_, fun e' refused => ?_⟩
      · cases accepted
      · cases refused
        exact .inl ((reads _).2 e run)
    | ok read =>
      refine ⟨fun r accepted => ?_, fun e refused => ?_⟩
      · cases accepted
        exact (reads _).1 read.1 read.2 run
      · cases refused

theorem RunConfig.of_value_wellformed {env : Vars} {v : Value} {cfg : RunConfig} {warnings : List String}
    (accepted : RunConfig.ofValue env v = .ok (cfg, warnings)) : cfg.Wellformed :=
  (RunConfig.of_value_ensures (ensures_read_run_config env) v).1 _ accepted

/-- A configuration is refused as a type or a value fault, or for a number too large to be
a float. -/
theorem RunConfig.of_value_refusal_kinds {env : Vars} {v : Value} {e : SettingsError}
    (refused : RunConfig.ofValue env v = .error e) :
    e.toFault.kind = .typeError ∨ e.toFault.kind = .valueError ∨ e = .reading .tooLarge := by
  rcases (RunConfig.of_value_ensures (ensures_read_run_config env) v).2 e refused with plain | rfl
  · exact plain
  · exact .inl rfl

theorem exists_error_of_fault {ε α : Type} (toFault : ε → Fault) {x : Except ε α} {f : Fault}
    (refused : (x.mapError fun e => ((toFault e).kind, (toFault e).message)).map (fun _ => ()) =
      .error (f.kind, f.message)) :
    ∃ e, x = .error e ∧ toFault e = f := by
  cases x with
  | error e =>
    refine ⟨e, rfl, ?_⟩
    simp only [Except.mapError, Except.map, Except.error.injEq, Prod.mk.injEq] at refused
    cases fault : toFault e
    cases f
    simp_all
  | ok a => cases refused

def hugeGraceConfig : Value :=
  .object [("run", .object [("kill_grace_seconds", .int 10000000000000000000000000000000000000000000000000000000000000000000000000000000000000000000000000000000000000000000000000000000000000000000000000000000000000000000000000000000000000000000000000000000000000000000000000000000000000000000000000000000000000000000000000000000000000000000000000000000000000000000000000000000000000000000000000000000000000000000000000000000000000000000000000000000000000000)]),
    ("workers", .object [("nodes", .list [.object [("name", .str "w1"), ("labels", .list [.str "linux"])]])]),
    ("tracks", .list [.object [("name", .str "t"), ("node", .str "linux"),
      ("stages", .list [.object [("name", .str "s"), ("actions", .list [.str "true"])]])]])]

def numericLogPathConfig : Value :=
  .object [("run", .object [("log_path", .int 5)])]

/-- The run section of `numericLogPathConfig` is read and its log path refused as a type
fault naming the field. -/
theorem RunConfig.of_value_refusal_kinds_of_numeric_log_path :
    ∃ e, RunConfig.ofValue [] numericLogPathConfig = .error e ∧
      e.toFault = ⟨.typeError, "run.log_path must be a string (type=int)"⟩ ∧
      (e.toFault.kind = .typeError ∨ e.toFault.kind = .valueError ∨ e = .reading .tooLarge) := by
  obtain ⟨e, refused, fault⟩ := exists_error_of_fault SettingsError.toFault
    (x := RunConfig.ofValue [] numericLogPathConfig)
    (f := ⟨.typeError, "run.log_path must be a string (type=int)"⟩) (by decide +kernel)
  exact ⟨e, refused, fault, RunConfig.of_value_refusal_kinds refused⟩

/-- The grace period of `hugeGraceConfig` is refused as an overflow, neither a type nor a
value fault. -/
theorem RunConfig.of_value_huge_grace_overflows :
    ∃ e, RunConfig.ofValue [] hugeGraceConfig = .error e ∧
      e.toFault = ⟨.overflow, "int too large to convert to float"⟩ :=
  exists_error_of_fault SettingsError.toFault (by decide +kernel)

end Conveyor.Config
