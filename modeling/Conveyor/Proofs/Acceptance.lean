import Mathlib
import Conveyor.Proofs.Schema
import Conveyor.Proofs.Check

/-!
# Accepted run configurations

What it means for a mapping to be accepted as a run configuration. Each mapping at a
position of the schema holds only that position's keys, and an entry added there under any
other key is refused at the end, naming the mapping's path and the keys read there. The
effective values of an accepted configuration, read as a configuration, give back the same
configuration and warnings.

Both follow from the spec of `readSettings` (`spec_read_settings`): the frame property carries
an added entry through every read untouched, so only the final check can refuse it; and
reading again over effective values replays the same reads (`Spec.reread`).
-/

namespace Conveyor.Config

set_option autoImplicit false

open Conveyor.Env Conveyor.Text

/-! ## Schemas with distinct keys -/

/-- Fields whose keys are distinct, and so in turn for the fields of every nested section or
list of sections they open. -/
inductive DistinctKeys : List Field → Prop
  | intro {fields : List Field} (nodup : (fields.map Field.key).Nodup)
      (nested : ∀ key inner, (Field.child key inner ∈ fields ∨ Field.items key inner ∈ fields) →
        DistinctKeys inner) :
      DistinctKeys fields

section Located

variable {fields : List Field} {p : List Step} {keys : List String}

theorem Locates.nodup (distinct : DistinctKeys fields) (located : Locates fields p keys) :
    keys.Nodup := by
  induction located with
  | here fields =>
    cases distinct with
    | intro nodup _ => exact nodup
  | child mem _ ih =>
    cases distinct with
    | intro _ nested => exact ih (nested _ _ (.inl mem))
  | item _ mem _ ih =>
    cases distinct with
    | intro _ nested => exact ih (nested _ _ (.inr mem))

theorem Locates.admissible (located : Locates fields p keys) {k : Value}
    (other : ∀ key ∈ keys, k ≠ .str key) : Admissible fields p k := by
  induction located with
  | here fields =>
    intro f mem
    exact other f.key (List.mem_map_of_mem mem)
  | child mem _ ih => exact .inr ⟨_, mem, ih other⟩
  | item _ mem _ ih => exact .inr ⟨_, mem, ih other⟩

end Located

theorem distinct_keys_of_values {fields : List Field} (nodup : (fields.map Field.key).Nodup)
    (values : ∀ f ∈ fields, ∃ key, f = .value key) : DistinctKeys fields := by
  refine .intro nodup fun key inner mem => ?_
  rcases mem with mem | mem
  · obtain ⟨_, same⟩ := values _ mem
    cases same
  · obtain ⟨_, same⟩ := values _ mem
    cases same

theorem distinct_keys_track_fields : DistinctKeys trackFields := by
  refine .intro (by decide) fun key inner mem => ?_
  simp only [trackFields, List.mem_cons, List.not_mem_nil, reduceCtorEq, false_or, or_false,
    Field.items.injEq] at mem
  obtain ⟨-, rfl⟩ := mem
  exact distinct_keys_of_values (by decide) (by simp [stageFields])

theorem distinct_keys_workers_fields : DistinctKeys workersFields := by
  refine .intro (by decide) fun key inner mem => ?_
  simp only [workersFields, List.mem_cons, List.not_mem_nil, reduceCtorEq, false_or, or_false,
    Field.items.injEq] at mem
  obtain ⟨-, rfl⟩ := mem
  exact distinct_keys_of_values (by decide) (by simp [workerFields])

theorem distinct_keys_settings_fields : DistinctKeys settingsFields := by
  refine .intro (by decide) fun key inner mem => ?_
  simp only [settingsFields, List.mem_cons, List.not_mem_nil, Field.child.injEq,
    Field.items.injEq, reduceCtorEq, false_or, or_false] at mem
  rcases mem with (⟨-, rfl⟩ | ⟨-, rfl⟩ | ⟨-, rfl⟩ | ⟨-, rfl⟩) | ⟨-, rfl⟩
  · exact distinct_keys_of_values (by decide) (by simp [runFields])
  · exact distinct_keys_of_values (by decide) (by simp [sourceFields])
  · exact distinct_keys_of_values (by decide) (by simp [toolchainFields])
  · exact distinct_keys_workers_fields
  · exact distinct_keys_track_fields

/-! ## Reading a whole configuration -/

/-- The configuration and warnings made from the five sections read, with the effective
values of the section tree the reading left. -/
def assembleConfig
    (x : RunSettings × SourceSettings × ToolchainSettings × WorkersSettings ×
      List (TrackSettings × Option String))
    (effective : List (String × Value)) : RunConfig × List String :=
  ({ run := x.1, source := x.2.1, toolchain := x.2.2.1, workers := x.2.2.2.1
     tracks := x.2.2.2.2.map (·.1), effective }, x.2.2.2.2.filterMap (·.2))

section Whole

variable {env : Vars} {s t : Section}
  {x : RunSettings × SourceSettings × ToolchainSettings × WorkersSettings ×
    List (TrackSettings × Option String)}

theorem read_run_config_of_clean (settled : readSettings env s = .ok (x, t))
    (clean : t.assertConsumed = .ok ()) :
    readRunConfig env s = .ok (assembleConfig x t.effectiveValues, t) := by
  obtain ⟨run, source, toolchain, workers, read⟩ := x
  unfold readRunConfig
  rw [bind_ok settled]
  dsimp only
  rw [bind_ok (show (get : Reading Section) t = .ok (t, t) from rfl)]
  simp only [clean]
  rfl

theorem read_run_config_of_unclean {e : ConfigError} (settled : readSettings env s = .ok (x, t))
    (refused : t.assertConsumed = .error e) : readRunConfig env s = .error (.reading e) := by
  obtain ⟨run, source, toolchain, workers, read⟩ := x
  unfold readRunConfig
  rw [bind_ok settled]
  dsimp only
  rw [bind_ok (show (get : Reading Section) t = .ok (t, t) from rfl)]
  simp only [refused]
  rfl

theorem read_run_config_eq_ok {r : RunConfig × List String} (run : readRunConfig env s = .ok (r, t)) :
    ∃ x, readSettings env s = .ok (x, t) ∧ t.assertConsumed = .ok () ∧
      r = assembleConfig x t.effectiveValues := by
  cases settled : readSettings env s with
  | error e =>
    unfold readRunConfig at run
    rw [show (readSettings env >>= _) s = .error e by
      change StateT.bind _ _ s = _
      simp only [StateT.bind, settled]
      rfl] at run
    cases run
  | ok result =>
    obtain ⟨x, t'⟩ := result
    cases clean : t'.assertConsumed with
    | error e => rw [read_run_config_of_unclean settled clean] at run; cases run
    | ok u =>
      rw [read_run_config_of_clean settled clean] at run
      obtain ⟨rfl, rfl⟩ := Prod.mk.inj (Except.ok.inj run)
      exact ⟨x, rfl, clean, rfl⟩

end Whole

theorem of_value_eq_ok {env : Vars} {cfg : Value} {r : RunConfig × List String}
    (accepted : RunConfig.ofValue env cfg = .ok r) :
    ∃ entries t, cfg.entries? = some entries ∧
      readRunConfig env (Section.ofEntries entries "") = .ok (r, t) := by
  unfold RunConfig.ofValue at accepted
  cases entries : cfg.entries? with
  | none => rw [entries] at accepted; cases accepted
  | some es =>
    rw [entries] at accepted
    dsimp only at accepted
    cases read : (readRunConfig env).run (Section.ofEntries es "") with
    | error e => rw [read] at accepted; cases accepted
    | ok result =>
      rw [read] at accepted
      cases accepted
      exact ⟨es, result.2, rfl, read⟩

/-! ## The sections at the positions of the schema -/

section Positions

variable {α : Type} {fields : List Field} {m : Reading α} {es₀ : List (Value × Value)}
  {path : String} {a : α} {t : Section} {x : Value} {p : List Step} {keys : List String}

theorem Spec.section_at_located (spec : Spec fields m)
    (run : m (Section.ofEntries es₀ path) = .ok (a, t)) (mapping₀ : x.entries? = some es₀)
    (located : Locates fields p keys) {y : Value} {es : List (Value × Value)}
    (found : x.valueAt p = some y) (mapping : y.entries? = some es) :
    ∃ effects, t.sectionAt p = some ((Section.ofEntries es (dottedPath path p)).afterAll effects) ∧
      effects.map Effect.key = keys := by
  have fresh := fresh_of_unread (Section.unread_of_entries es₀ path) fields
  cases p with
  | nil =>
    cases found
    rw [mapping₀] at mapping
    cases mapping
    obtain ⟨effects, rfl, reads, -, -⟩ := spec.replay _ a t fresh run
    exact ⟨effects, rfl, (keys_of_reads reads).trans located.nil_keys.symm⟩
  | cons step rest =>
    exact spec.opens _ a t fresh run step rest keys located y es
      ((Section.value_at_of_entries_data mapping₀ path step rest).trans found) mapping

end Positions

namespace Section

theorem consumed_of_entries_after_all (es : List (Value × Value)) (path : String)
    {effects : List Effect} (distinct : (effects.map Effect.key).Nodup) :
    ((ofEntries es path).afterAll effects).consumed = effects.map Effect.key := by
  have unread := unread_of_entries es path
  rw [(after_all_parts _ effects distinct (fun e _ => by
    simp [unread.consumed, unread.effective, unread.children, unread.items])).1, unread.consumed,
    List.nil_append]

theorem consumed_after (s : Section) (e : Effect) :
    (s.after e).consumed = (s.consume e.key).consumed := by
  cases e <;> rfl

theorem mem_consumed_after_all {s : Section} {effects : List Effect} {k : String}
    (read : k ∈ (s.afterAll effects).consumed) : k ∈ s.consumed ∨ k ∈ effects.map Effect.key := by
  induction effects generalizing s with
  | nil => exact .inl read
  | cons e rest ih =>
    rcases ih read with before | later
    · rw [consumed_after, consume_eq, consumed_mk] at before
      split at before
      · exact .inl before
      · rcases List.mem_append.mp before with old | new
        · exact .inl old
        · exact .inr (by simp [List.mem_singleton.mp new])
    · exact .inr (List.mem_cons_of_mem _ later)

theorem mem_split_keys {es : List (Value × Value)} {entry : Value × Value} (mem : entry ∈ es) :
    (∃ key, entry.1 = .str key ∧ (key, entry.2) ∈ (Value.splitKeys es).1) ∨
      (entry.1.str? = none ∧ entry.1 ∈ (Value.splitKeys es).2) := by
  induction es with
  | nil => cases mem
  | cons head rest ih =>
    obtain ⟨k, v⟩ := head
    cases text : k.str? with
    | some key =>
      obtain rfl := Value.eq_str_of_str? text
      rw [Value.split_keys_cons_str]
      rcases List.mem_cons.mp mem with rfl | later
      · exact .inl ⟨key, rfl, List.mem_cons_self⟩
      · rcases ih later with ⟨key', isText, found⟩ | ⟨notText, found⟩
        · exact .inl ⟨key', isText, List.mem_cons_of_mem _ found⟩
        · exact .inr ⟨notText, found⟩
    | none =>
      rw [Value.split_keys_cons_other text]
      rcases List.mem_cons.mp mem with rfl | later
      · exact .inr ⟨text, List.mem_cons_self⟩
      · rcases ih later with ⟨key', isText, found⟩ | ⟨notText, found⟩
        · exact .inl ⟨key', isText, found⟩
        · exact .inr ⟨notText, List.mem_cons_of_mem _ found⟩

theorem keys_of_clean {es : List (Value × Value)} {path : String} {effects : List Effect}
    (clean : ((ofEntries es path).afterAll effects).assertConsumed = .ok ()) :
    ∀ entry ∈ es, ∃ key ∈ effects.map Effect.key, entry.1 = .str key := by
  obtain ⟨covered, noOthers⟩ := unconsumed_keys_eq_nil.mp (assert_consumed_eq_ok.mp clean).1
  have unread := unread_of_entries es path
  intro entry mem
  rcases mem_split_keys mem with ⟨key, text, found⟩ | ⟨-, other⟩
  · -- a text key was read, so some effect is at it
    refine ⟨key, ?_, text⟩
    have read := covered (key, entry.2) (by rw [data_after_all, of_entries_eq]; exact found)
    rcases mem_consumed_after_all read with before | later
    · rw [unread.consumed] at before
      cases before
    · exact later
  · -- any other key would be left unread
    rw [others_after_all, of_entries_eq, others_mk, List.map_eq_nil_iff] at noOthers
    rw [noOthers] at other
    cases other

end Section

/-! ## Unknown keys -/

section Accepted

variable {env : Vars} {cfg : Value}

/-- In an accepted configuration, every mapping at a position of the schema holds only that
position's keys; and an entry added to it under any other key, text or not, with any value, is
refused by the final check: the configuration is then refused for that key alone, under the
mapping's dotted path and the keys read there, sorted. -/
theorem accepted_positions_refuse_unknown_keys {r : RunConfig × List String}
    (accepted : RunConfig.ofValue env cfg = .ok r) {p : List Step} {keys : List String}
    (position : Locates settingsFields p keys) {m : Value} {es : List (Value × Value)}
    (found : cfg.valueAt p = some m) (mapping : m.entries? = some es) :
    (∀ entry ∈ es, ∃ key ∈ keys, entry.1 = .str key) ∧
      ∀ k v, (∀ key ∈ keys, k ≠ .str key) →
        RunConfig.ofValue env (cfg.addAt p k v) =
          .error (.reading (.unknownKeys (dottedPath "" p) [k.text] (sortTexts keys))) := by
  obtain ⟨entries, t, mapping₀, run⟩ := of_value_eq_ok accepted
  obtain ⟨x, settled, clean, -⟩ := read_run_config_eq_ok run
  have spec := spec_read_settings env
  obtain ⟨effects, atPosition, effectKeys⟩ :=
    spec.section_at_located settled mapping₀ position found mapping
  have cleanThere := Section.assert_consumed_section_at clean atPosition
  have consumedThere :
      ((Section.ofEntries es (dottedPath "" p)).afterAll effects).consumed = keys := by
    rw [Section.consumed_of_entries_after_all _ _
      (effectKeys ▸ position.nodup distinct_keys_settings_fields), effectKeys]
  refine ⟨fun entry mem => effectKeys ▸ Section.keys_of_clean cleanThere entry mem, ?_⟩
  intro k v other
  -- the added entry is never read, so the sections read the same and only the check refuses
  obtain ⟨entries', mapping', opened⟩ := Section.of_entries_add_at mapping₀ p k v ""
  have framed := spec.frame _ _ _ (fresh_of_unread (Section.unread_of_entries _ _) _) settled p k v
    (position.admissible other) (Section.reaches_of_entries mapping₀ "" found mapping)
  rw [← opened] at framed
  have refused := Section.assert_consumed_add_at (v := v) clean atPosition
    (Section.assert_consumed_add_entry (v := v) cleanThere (by rw [consumedThere]; exact other))
  unfold RunConfig.ofValue
  rw [mapping']
  show Except.map _ (readRunConfig env _) = _
  rw [read_run_config_of_unclean framed refused, Section.path_after_all, Section.consumedKeys,
    consumedThere]
  rfl

/-- The effective values of an accepted configuration, read as a configuration under the
same environment, give back the same configuration, effective values included, and the same
warnings. -/
theorem effective_config_reads_back {c : RunConfig} {w : List String}
    (accepted : RunConfig.ofValue env cfg = .ok (c, w)) :
    RunConfig.ofValue env (.object c.effective) = .ok (c, w) := by
  obtain ⟨entries, t, -, run⟩ := of_value_eq_ok accepted
  obtain ⟨x, settled, -, same⟩ := read_run_config_eq_ok run
  obtain ⟨rfl, rfl⟩ := Prod.mk.inj same
  obtain ⟨t', settled', sameEffective, clean'⟩ :=
    (spec_read_settings env).reread (by decide) settled rfl
  show Except.map _ (readRunConfig env _) = _
  rw [read_run_config_of_clean settled' clean', sameEffective]
  rfl

end Accepted

def sampleConfig : Value :=
  .object [("workers", .object [("nodes", .list [.object [("name", .str "w"), ("labels", .list [.str "l"])]])]),
    ("tracks", .list [.object [("name", .str "t"), ("node", .str "l"),
      ("stages", .list [.object [("name", .str "s"), ("actions", .list [.str "a"])]])]])]

theorem exists_ok_of_to_bool {ε α : Type} {e : Except ε α} (ok : e.toBool = true) : ∃ a, e = .ok a := by
  cases e with
  | error => cases ok
  | ok a => exact ⟨a, rfl⟩

theorem sample_config_accepted : ∃ r, RunConfig.ofValue [] sampleConfig = .ok r :=
  exists_ok_of_to_bool (by decide +kernel)

/-- The stage of the sample configuration refuses a key padded with a blank. -/
theorem sample_stage_refuses_padded_name :
    ∃ r, RunConfig.ofValue [] sampleConfig = .ok r ∧
      Locates settingsFields [.item "tracks" 0, .item "stages" 0] (stageFields.map Field.key) ∧
      sampleConfig.valueAt [.item "tracks" 0, .item "stages" 0] =
        some (.object [("name", .str "s"), ("actions", .list [.str "a"])]) ∧
      (∀ key ∈ stageFields.map Field.key, Value.str " name" ≠ .str key) ∧
      RunConfig.ofValue [] (sampleConfig.addAt [.item "tracks" 0, .item "stages" 0] (.str " name") (.int 1)) =
        .error (.reading (.unknownKeys (dottedPath "" [.item "tracks" 0, .item "stages" 0])
          [(Value.str " name").text] (sortTexts (stageFields.map Field.key)))) := by
  obtain ⟨r, accepted⟩ := sample_config_accepted
  have inTrack : Locates trackFields [.item "stages" 0] (stageFields.map Field.key) :=
    .item 0 (by simp [trackFields]) (.here stageFields)
  have position : Locates settingsFields [.item "tracks" 0, .item "stages" 0] (stageFields.map Field.key) :=
    .item 0 (by simp [settingsFields]) inTrack
  have found : sampleConfig.valueAt [.item "tracks" 0, .item "stages" 0] =
      some (.object [("name", .str "s"), ("actions", .list [.str "a"])]) := rfl
  have other : ∀ key ∈ stageFields.map Field.key, Value.str " name" ≠ .str key := by
    simp [stageFields, Field.key]
  exact ⟨r, accepted, position, found, other,
    (accepted_positions_refuse_unknown_keys accepted position found rfl).2 _ _ other⟩

/-- The sample configuration reads back from its effective values. -/
theorem sample_effective_config_reads_back :
    ∃ c w, RunConfig.ofValue [] sampleConfig = .ok (c, w) ∧
      RunConfig.ofValue [] (.object c.effective) = .ok (c, w) := by
  obtain ⟨⟨c, w⟩, accepted⟩ := sample_config_accepted
  exact ⟨c, w, accepted, effective_config_reads_back accepted⟩

end Conveyor.Config
