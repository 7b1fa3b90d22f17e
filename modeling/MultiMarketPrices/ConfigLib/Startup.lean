import MultiMarketPrices.ConfigLib.Sections

/-!
# What a process starts with

`init` reads the log level and initializes logging in the branch that it takes
without a configuration, and not in the one that it takes with one.  Whatever
`createConfig` yields, the wrong branch is taken.
-/

namespace MultiMarketPrices.ConfigLib

/-- The level that the configuration asks for, if it names one. -/
def denotedLevel (cfg : Json.Object) : Option LoggingLevel :=
  (cfg.cStrAt ConfigTag.logLevel).toOption.bind strToLogLevel

/-- Without a configuration nothing is read of it and no file is watched.  A
configuration is returned once logging has its level, and not returned if it
has none. -/
structure HandlesBoth (created : Except Thrown (Option Json.Object))
    (startup : Startup) : Prop where
  habsent : created = .ok none →
    startup.result = .ok none ∧ startup.absentRead = false ∧
      startup.watching = false
  hpresent : ∀ cfg, created = .ok (some cfg) →
    (∀ level, denotedLevel cfg = some level →
      startup.result = .ok (some cfg) ∧
        startup.logging = some (nanoLogLevel level)) ∧
    (denotedLevel cfg = none → startup.result = .ok none)

variable {parse : String → Except Thrown Json} {file : Option String}
  {appId : String} {absent : Json.Object}

/-- Without a configuration, the absent one is read. -/
theorem init_of_absent (hcreated : createConfig parse file appId = .ok none) :
    (init parse file appId absent).absentRead = true := by
  simp only [init, hcreated]
  repeat' split
  all_goals rfl

/-- With one, it is returned at once. -/
theorem init_of_present {cfg : Json.Object}
    (hcreated : createConfig parse file appId = .ok (some cfg)) :
    init parse file appId absent = ⟨.ok (some cfg), false, none, true⟩ := by
  simp only [init, hcreated]

theorem not_handlesBoth_of_created {cfgOpt : Option Json.Object}
    (hcreated : createConfig parse file appId = .ok cfgOpt) :
    ¬ HandlesBoth (createConfig parse file appId)
      (init parse file appId absent) := by
  intro hhandles
  cases cfgOpt with
  | none =>
      have hread := (hhandles.habsent hcreated).2.1
      rw [init_of_absent hcreated] at hread
      cases hread
  | some cfg =>
      obtain ⟨hlevel, hnoLevel⟩ := hhandles.hpresent cfg hcreated
      rw [init_of_present hcreated] at hlevel hnoLevel
      cases hdenoted : denotedLevel cfg with
      | none => cases hnoLevel hdenoted
      | some level => cases (hlevel level hdenoted).2

/-- `init` handles what `createConfig` yields only if it yields nothing: the
file holds an object that makes an exception escape. -/
theorem handlesBoth_iff_unguarded (parse : String → Except Thrown Json)
    (file : Option String) (appId : String) (absent : Json.Object) :
    HandlesBoth (createConfig parse file appId)
        (init parse file appId absent) ↔
      ∃ config, loadJson parse file = some config ∧
        ¬ Guarded config appId := by
  constructor
  · intro hhandles
    cases hfile : loadJson parse file with
    | none =>
        have hcreated : createConfig parse file appId = .ok none := by
          simp only [createConfig, hfile]
        exact absurd hhandles (not_handlesBoth_of_created hcreated)
    | some config =>
        refine ⟨config, rfl, fun hguarded => ?_⟩
        obtain ⟨cfgOpt, hcreated⟩ :=
          (createConfig_returns_iff hfile).mpr hguarded
        exact not_handlesBoth_of_created hcreated hhandles
  · rintro ⟨config, hfile, hunguarded⟩
    have hthrows : ∀ cfgOpt, createConfig parse file appId ≠ .ok cfgOpt :=
      fun cfgOpt hcreated => hunguarded
        ((createConfig_returns_iff hfile).mp ⟨cfgOpt, hcreated⟩)
    exact ⟨fun hcreated => absurd hcreated (hthrows none),
      fun cfg hcreated => absurd hcreated (hthrows (some cfg))⟩

/-- A configuration with every mandatory tag. -/
def fullConfig : Json.Object :=
  ("system", .object ((mandatoryTags.erase ConfigTag.logLevel).map
    fun tag => (tag, .null))) ::
  [("groups", .object [("prices", .object [("logLevel", .string "info")])]),
    ("apps", .object [("gateway", .object [("group", .string "prices")])])]

/-- A file that cannot be opened makes `init` read the absent configuration; a
good one is returned without logging. -/
theorem mishandled_outcomes :
    ∃ parse absent,
      (init parse none "gateway" absent).absentRead = true ∧
      ¬ HandlesBoth (createConfig parse none "gateway")
        (init parse none "gateway" absent) ∧
      (∃ cfg, createConfig parse (some "full") "gateway" = .ok (some cfg) ∧
        denotedLevel cfg = some .info) ∧
      (init parse (some "full") "gateway" absent).logging = none ∧
      ¬ HandlesBoth (createConfig parse (some "full") "gateway")
        (init parse (some "full") "gateway" absent) := by
  refine ⟨fun _ => .ok (.object fullConfig), [], rfl,
    not_handlesBoth_of_created rfl, ⟨_, rfl, by decide⟩, rfl,
    not_handlesBoth_of_created rfl⟩

end MultiMarketPrices.ConfigLib
