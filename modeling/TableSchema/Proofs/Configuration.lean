import TableSchema.Configuration
import TableSchema.Proofs.Json.Canonical
import TableSchema.Proofs.Json.Extended
import TableSchema.Proofs.Json.Options

set_option autoImplicit false

namespace TableSchema

theorem Level.mem_names_iff {text : String} :
    text ∈ names ↔ ∃ level, ofName? text = some level := by
  rw [← Option.isSome_iff_exists, ofName?, List.find?_isSome, names, List.mem_map]
  simp only [beq_iff_eq]

theorem LogFormat.reads_reader (format : LogFormat) : reader.Reads format.toJson format := by
  cases format <;> exact fun _ _ => rfl

theorem LogSettings.exists_filter_iff {settings : LogSettings} {override : Option String} :
    (∃ filter, settings.filter override = .ok filter) ↔ settings.level ∈ Level.names := by
  rw [Level.mem_names_iff]
  unfold filter
  cases Level.ofName? settings.level <;> simp

namespace Configuration

section Conditions

/-- The conditions that a configuration must meet. -/
structure Sound (config : Configuration) : Prop where
  declares : config.declarations ≠ []
  works : 0 < config.maxParallelism
  level : config.logLevel ∈ Level.names

/-- The first condition that the configuration fails. -/
inductive FailsFirst (config : Configuration) : ConfigurationFlaw → Prop
  | noDeclarations (silent : config.declarations = []) : FailsFirst config .noDeclarations
  | noWorkers (declares : config.declarations ≠ []) (idle : ¬ 0 < config.maxParallelism) :
      FailsFirst config .noWorkers
  | unknownLevel (declares : config.declarations ≠ []) (works : 0 < config.maxParallelism)
      (unknown : config.logLevel ∉ Level.names) :
      FailsFirst config (.unknownLevel config.logLevel)

theorem FailsFirst.not_sound {config : Configuration} {flaw : ConfigurationFlaw}
    (fails : config.FailsFirst flaw) : ¬ config.Sound := by
  intro sound
  cases fails with
  | noDeclarations silent => exact sound.declares silent
  | noWorkers declares idle => exact idle sound.works
  | unknownLevel declares works unknown => exact unknown sound.level

theorem flaw?_cases (config : Configuration) :
    config.flaw? = none ∧ config.Sound ∨
      ∃ flaw, config.flaw? = some flaw ∧ config.FailsFirst flaw := by
  rw [flaw?]
  by_cases silent : config.declarations = []
  · exact Or.inr ⟨_, if_pos (List.isEmpty_iff.2 silent), .noDeclarations silent⟩
  rw [if_neg (by rwa [List.isEmpty_iff])]
  by_cases works : 0 < config.maxParallelism
  · rw [if_neg (UInt64.pos_iff_ne_zero.1 works)]
    by_cases level : config.logLevel ∈ Level.names
    · exact Or.inl ⟨if_neg (not_not.2 level), silent, works, level⟩
    · exact Or.inr ⟨_, if_pos level, .unknownLevel silent works level⟩
  · have idle : config.maxParallelism = 0 := by
      by_contra positive
      exact works (UInt64.pos_iff_ne_zero.2 positive)
    exact Or.inr ⟨_, if_pos idle, .noWorkers silent works⟩

theorem flaw?_eq_none_iff {config : Configuration} : config.flaw? = none ↔ config.Sound := by
  rcases config.flaw?_cases with ⟨none_found, sound⟩ | ⟨flaw, found, fails⟩
  · exact iff_of_true none_found sound
  · rw [found]
    exact iff_of_false nofun fails.not_sound

end Conditions

section Texts

private theorem reads_paths (paths : List String) :
    (Reader.listOf (Reader.textOf "path string")).ReadsNode 1 (Json.ofTexts paths).node paths := by
  have reads : (Reader.listOf (Reader.textOf "path string")).Reads (Json.ofTexts paths) paths :=
    Reader.reads_listOf (List.forall₂_map_left_iff.2 (List.forall₂_same.2 fun _ _ _ _ => rfl))
  exact reads.node (Json.plain_ofTexts 0 paths).shallow

theorem reads_shape (config : Configuration) :
    shape.reader.ReadsNode 2 config.toJson.node config := by
  obtain ⟨declarations, hints, parallel, workers, level, format⟩ := config
  have count := (Reader.reads_natural workers.toNat_lt le_rfl "usize").map fun n => n.val.toUInt64
  rw [show workers.toNat.toUInt64 = workers from workers.ofNat_toNat] at count
  have named := hints.reads_reader.node (Json.plain_ofTexts 0 hints.names).shallow
  have fills : shape.Fills 1 shape.blank
      (Json.nodes [("declarations", .ofTexts declarations),
        ("recognized_codegen_hints", hints.toJson), ("parallel_validation", .bool parallel),
        ("max_parallelism", .ofNat workers.toNat), ("log_level", .text level),
        ("log_format", format.toJson)])
      ⟨some declarations, some hints, some parallel, some workers, some level, some format⟩ :=
    .of rfl rfl (reads_paths declarations) (.of rfl rfl named
      (.of rfl rfl ((Reader.reads_bool parallel).node (Nat.zero_le 1))
        (.of rfl rfl (count.node (Nat.zero_le 1))
          (.of rfl rfl ((Reader.reads_text level).node (Nat.zero_le 1))
            (.of rfl rfl (format.reads_reader.node (Nat.zero_le 1)) (.nil _))))))
  exact fills.reads rfl

theorem plain_toJson (config : Configuration) (levels : Nat) :
    config.toJson.Plain (levels + 2) := by
  refine Json.plain_object ?_
  simp only [List.forall_mem_cons]
  exact ⟨Json.plain_ofTexts _ config.declarations,
    Json.plain_ofTexts _ config.recognizedHints.names,
    Json.plain_bool _ config.parallelValidation, Json.plain_ofNat _ config.maxParallelism.toNat,
    Json.plain_text _ config.logLevel, Json.plain_text _ config.logFormat.name,
    List.forall_mem_nil _⟩

theorem run_render (config : Configuration) :
    Reader.run shape.reader config.toJson.render = .ok config :=
  (config.reads_shape.mono (by decide)).run_of_json (config.plain_toJson 125).run_render

theorem ofText_eq_ok_iff {text : String} {config : Configuration} :
    ofText text = .ok config ↔ Reader.run shape.reader text = .ok config ∧ config.Sound := by
  rw [← flaw?_eq_none_iff]
  unfold ofText
  cases Reader.run shape.reader text with
  | error problem => simp
  | ok found =>
    dsimp only
    constructor
    · intro accepted
      cases flaw : found.flaw? with
      | some flaw =>
        rw [flaw] at accepted
        cases accepted
      | none =>
        rw [flaw] at accepted
        cases accepted
        exact ⟨rfl, flaw⟩
    · rintro ⟨same, sound⟩
      cases same
      rw [sound]

end Texts

/-- The text of a configuration is accepted just when the conditions are met, and else the first
that fails is told. From whatever text a configuration has been read, it meets them, so its level is
one for which a log can be set up, and it is read again from its own text. -/
theorem accepted_iff_sound :
    (∀ config : Configuration,
      (ofText config.toJson.render = .ok config ↔ config.Sound) ∧
      (¬ config.Sound → ∃ flaw, config.FailsFirst flaw ∧
        ofText config.toJson.render = .error (.invalid flaw))) ∧
    ∀ (text : String) (config : Configuration), ofText text = .ok config →
      config.Sound ∧
      (∀ override : Option String, ∃ filter, config.logSettings.filter override = .ok filter) ∧
      ofText config.toJson.render = .ok config := by
  constructor
  · intro config
    have read := config.run_render
    refine ⟨?_, fun unsound => ?_⟩
    · rw [ofText_eq_ok_iff, read]
      exact and_iff_right rfl
    · rcases config.flaw?_cases with ⟨_, sound⟩ | ⟨flaw, found, fails⟩
      · exact absurd sound unsound
      · refine ⟨flaw, fails, ?_⟩
        rw [ofText, read]
        dsimp only
        rw [found]
  · intro text config accepted
    obtain ⟨_, sound⟩ := ofText_eq_ok_iff.1 accepted
    refine ⟨sound, fun override => ?_, ofText_eq_ok_iff.2 ⟨config.run_render, sound⟩⟩
    exact LogSettings.exists_filter_iff.2 sound.level

theorem ofText_declarations {declarations : List String} (some_declared : declarations ≠ []) :
    ofText (Json.object [("declarations", .ofTexts declarations)]).render =
      .ok (ofDeclarations declarations) := by
  have fills : shape.Fills 1 shape.blank (Json.nodes [("declarations", .ofTexts declarations)])
      ⟨some declarations, none, none, none, none, none⟩ :=
    .of rfl rfl (reads_paths declarations) (.nil _)
  have reads : shape.reader.ReadsNode 2
      (Json.object [("declarations", .ofTexts declarations)]).node (ofDeclarations declarations) :=
    fills.reads rfl
  have plain : (Json.object [("declarations", .ofTexts declarations)]).Plain Reader.maxDepth :=
    Json.plain_object (List.forall_mem_singleton.2 (Json.plain_ofTexts 125 declarations))
  have works : 0 < BuildOptions.default.maxWorkers.toUInt64 := by decide
  have level : LogSettings.default.level ∈ Level.names := by decide
  exact ofText_eq_ok_iff.2
    ⟨(reads.mono (by decide)).run_of_json plain.run_render, some_declared, works, level⟩

theorem world_is_read_again :
    ofText "\x7b\"declarations\":[\"world.json\"]\x7d" = .ok (ofDeclarations ["world.json"]) ∧
      ofText (ofDeclarations ["world.json"]).toJson.render =
        .ok (ofDeclarations ["world.json"]) := by
  have text : (Json.object [("declarations", .ofTexts ["world.json"])]).render =
      "\x7b\"declarations\":[\"world.json\"]\x7d" := rfl
  have read := ofText_declarations (List.cons_ne_nil "world.json" [])
  rw [text] at read
  exact ⟨read, (accepted_iff_sound.2 _ _ read).2.2⟩

end Configuration

end TableSchema
