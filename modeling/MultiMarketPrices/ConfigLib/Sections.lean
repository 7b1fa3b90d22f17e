import MultiMarketPrices.ConfigLib.Config

/-!
# From the sections to a configuration

A key has the value of the most special section that has it.  `validate` is
there so that `flatten` finds the sections it reads; it does not look at all of
them, and both convert values unchecked.  A file is handled without an exception
exactly when `validate` finds something missing, or all sections are there.
-/

namespace MultiMarketPrices.ConfigLib

/-! ## The three-way merge -/

theorem lookup_copyInto {members : Json.Object} (hdistinct : members.Distinct)
    (res : Json.Object) (key : String) :
    (copyInto members res).lookup key =
      (members.lookup key).or (res.lookup key) := by
  induction members generalizing res with
  | nil => rfl
  | cons member members ih =>
      obtain ⟨name, value⟩ := member
      obtain ⟨hfresh, hrest⟩ := List.nodup_cons.mp hdistinct
      rw [copyInto, List.foldl_cons, ← copyInto, ih hrest,
        Json.Object.lookup_assign, List.lookup_cons]
      by_cases hkey : key = name
      · subst hkey
        have hnone : members.lookup key = none := by
          rwa [← Json.Object.contains_iff, Json.Object.contains,
            Option.not_isSome_iff_eq_none] at hfresh
        simp [hnone]
      · have hfalse : (key == name) = false := by simpa using hkey
        simp [hkey, hfalse]

/-- What is there already stays. -/
theorem lookup_fillInto (members res : Json.Object) (key : String) :
    (fillInto members res).lookup key =
      (res.lookup key).or (members.lookup key) := by
  induction members generalizing res with
  | nil => simp [fillInto]
  | cons member members ih =>
      obtain ⟨name, value⟩ := member
      rw [fillInto, List.foldl_cons, ← fillInto, ih, List.lookup_cons]
      by_cases hkey : key = name
      · subst hkey
        cases hfound : res.lookup key with
        | some found => simp [Json.Object.contains, hfound]
        | none =>
            simp [Json.Object.contains, hfound, Json.Object.lookup_assign]
      · have hfalse : (key == name) = false := by simpa using hkey
        rw [hfalse]
        split
        · rw [Json.Object.lookup_assign, if_neg hkey]
        · rfl

/-- The app's value comes first, then the group's, then the system's. -/
theorem lookup_merge {app : Json.Object} (happ : app.Distinct)
    (group system : Json.Object) (key : String) :
    (merge app group system).lookup key =
      ((app.lookup key).or (group.lookup key)).or (system.lookup key) := by
  rw [merge, lookup_fillInto, lookup_fillInto, lookup_copyInto happ]
  simp

/-! ## The sections -/

/-- What is flattened for an app. -/
structure Sections where
  app : Json.Object
  group : Json.Object
  system : Json.Object

/-- The configuration has the sections, and every section is an object. -/
inductive HasSections (config : Json.Object) (appId : String)
    (sections : Sections) : Prop
  | intro (groups apps : Json.Object) (name : String)
      (hsystem : config.lookup ConfigTag.system =
        some (.object sections.system))
      (hgroups : config.lookup ConfigTag.groups = some (.object groups))
      (happs : config.lookup ConfigTag.apps = some (.object apps))
      (happ : apps.lookup appId = some (.object sections.app))
      (hname : sections.app.lookup ConfigTag.group = some (.string name))
      (hgroup : groups.lookup name = some (.object sections.group))

/-- What `validate` finds missing. -/
inductive Rejected (config : Json.Object) (appId : String) : Prop
  | groups (hgroups : config.lookup ConfigTag.groups = none)
  | apps (happs : config.lookup ConfigTag.apps = none)
  | app (groups apps : Json.Object)
      (hgroups : config.lookup ConfigTag.groups = some (.object groups))
      (happs : config.lookup ConfigTag.apps = some (.object apps))
      (happ : apps.lookup appId = none)
  | groupName (groups apps app : Json.Object)
      (hgroups : config.lookup ConfigTag.groups = some (.object groups))
      (happs : config.lookup ConfigTag.apps = some (.object apps))
      (happ : apps.lookup appId = some (.object app))
      (hname : app.lookup ConfigTag.group = none)
  | group (groups apps app : Json.Object) (name : String)
      (hgroups : config.lookup ConfigTag.groups = some (.object groups))
      (happs : config.lookup ConfigTag.apps = some (.object apps))
      (happ : apps.lookup appId = some (.object app))
      (hname : app.lookup ConfigTag.group = some (.string name))
      (hgroup : groups.lookup (Text.cStr name) = none)

/-- Something that `validate` looks for is missing, or everything that `flatten`
reads is there. -/
def Guarded (config : Json.Object) (appId : String) : Prop :=
  Rejected config appId ∨ ∃ sections, HasSections config appId sections

variable {config : Json.Object} {appId : String}

theorem flatten_eq_ok_iff {flat : Json.Object} :
    flatten config appId = .ok flat ↔
      ∃ sections, HasSections config appId sections ∧
        merge sections.app sections.group sections.system = flat := by
  constructor
  · intro hflat
    obtain ⟨system, hsystem, hflat⟩ := bind_eq_ok.mp hflat
    obtain ⟨groups, hgroups, hflat⟩ := bind_eq_ok.mp hflat
    obtain ⟨apps, happs, hflat⟩ := bind_eq_ok.mp hflat
    obtain ⟨app, happ, hflat⟩ := bind_eq_ok.mp hflat
    obtain ⟨name, hname, hflat⟩ := bind_eq_ok.mp hflat
    obtain ⟨group, hgroup, hmerge⟩ := map_eq_ok.mp hflat
    exact ⟨⟨app, group, system⟩,
      .intro groups apps name (Json.Object.asObject_atKey_eq_ok.mp hsystem)
        (Json.Object.asObject_atKey_eq_ok.mp hgroups)
        (Json.Object.asObject_atKey_eq_ok.mp happs)
        (Json.Object.asObject_atKey_eq_ok.mp happ)
        (Json.Object.asString_atKey_eq_ok.mp hname)
        (Json.Object.asObject_atKey_eq_ok.mp hgroup), hmerge⟩
  · rintro ⟨sections, ⟨groups, apps, name, hsystem, hgroups, happs, happ, hname,
      hgroup⟩, rfl⟩
    rw [flatten]
    refine bind_eq_ok.mpr ⟨_, Json.Object.asObject_atKey_eq_ok.mpr hsystem, ?_⟩
    refine bind_eq_ok.mpr ⟨_, Json.Object.asObject_atKey_eq_ok.mpr hgroups, ?_⟩
    refine bind_eq_ok.mpr ⟨_, Json.Object.asObject_atKey_eq_ok.mpr happs, ?_⟩
    refine bind_eq_ok.mpr ⟨_, Json.Object.asObject_atKey_eq_ok.mpr happ, ?_⟩
    refine bind_eq_ok.mpr ⟨_, Json.Object.asString_atKey_eq_ok.mpr hname, ?_⟩
    exact map_eq_ok.mpr ⟨_, Json.Object.asObject_atKey_eq_ok.mpr hgroup, rfl⟩

/-! ## What `validate` tells -/

theorem validate_of_rejected (hrejected : Rejected config appId) :
    validate config appId = .ok false := by
  cases hrejected with
  | groups hgroups => simp [validate, Json.Object.contains, hgroups]
  | apps happs =>
      rw [validate]
      split
      · rfl
      · simp [Json.Object.contains, happs]
  | app groups apps hgroups happs happ =>
      simp [validate, Json.Object.contains, Json.Object.atKey, hgroups, happs,
        happ, Except.bind]
  | groupName groups apps app hgroups happs happ hname =>
      simp [validate, Json.Object.contains, Json.Object.atKey, hgroups, happs,
        happ, hname, Except.bind]
  | group groups apps app name hgroups happs happ hname hgroup =>
      simp [validate, Json.Object.contains, Json.Object.atKey, hgroups, happs,
        happ, hname, Json.Object.cStrAt_of_lookup hname, hgroup, Except.bind,
        Except.map]

/-- With all sections there, `validate` returns. -/
theorem validate_of_hasSections {sections : Sections}
    (hsections : HasSections config appId sections) :
    ∃ valid, validate config appId = .ok valid := by
  obtain ⟨groups, apps, name, -, hgroups, happs, happ, hname, -⟩ := hsections
  refine ⟨groups.contains (Text.cStr name), ?_⟩
  simp [validate, Json.Object.contains, Json.Object.atKey, hgroups, happs,
    happ, hname, Json.Object.cStrAt_of_lookup hname, Except.bind, Except.map]

theorem lookup_of_not_contains {members : Json.Object} {key : String}
    (hmissing : (!members.contains key) = true) :
    members.lookup key = none := by
  simpa [Json.Object.contains] using hmissing

theorem rejected_of_validate (hvalid : validate config appId = .ok false) :
    Rejected config appId := by
  rw [validate] at hvalid
  split at hvalid
  · next hgroups => exact .groups (lookup_of_not_contains hgroups)
  · split at hvalid
    · next happs => exact .apps (lookup_of_not_contains happs)
    · obtain ⟨apps, happs, hvalid⟩ := bind_eq_ok.mp hvalid
      obtain ⟨groups, hgroups, hvalid⟩ := bind_eq_ok.mp hvalid
      rw [Json.Object.asObject_atKey_eq_ok] at happs hgroups
      split at hvalid
      · next happ =>
          exact .app groups apps hgroups happs (lookup_of_not_contains happ)
      · obtain ⟨app, happ, hvalid⟩ := bind_eq_ok.mp hvalid
        rw [Json.Object.asObject_atKey_eq_ok] at happ
        split at hvalid
        · next hname =>
            exact .groupName groups apps app hgroups happs happ
              (lookup_of_not_contains hname)
        · obtain ⟨text, htext, hgroup⟩ := map_eq_ok.mp hvalid
          obtain ⟨name, hname, rfl⟩ := Json.Object.cStrAt_eq_ok.mp htext
          exact .group groups apps app name hgroups happs happ hname
            (lookup_of_not_contains (by simpa using hgroup))

/-! ## The file is handled -/

section File

variable {parse : String → Except Thrown Json} {file : Option String}

/-- An object that is read makes a configuration without an exception exactly
when it is guarded. -/
theorem createConfig_returns_iff (hfile : loadJson parse file = some config) :
    (∃ cfgOpt, createConfig parse file appId = .ok cfgOpt) ↔
      Guarded config appId := by
  simp only [createConfig, hfile]
  constructor
  · rintro ⟨cfgOpt, hcreated⟩
    obtain ⟨valid, hvalid, hcreated⟩ := bind_eq_ok.mp hcreated
    cases valid with
    | false => exact .inl (rejected_of_validate hvalid)
    | true =>
        obtain ⟨flat, hflat, -⟩ := map_eq_ok.mp hcreated
        obtain ⟨sections, hsections, -⟩ := flatten_eq_ok_iff.mp hflat
        exact .inr ⟨sections, hsections⟩
  · rintro (hrejected | ⟨sections, hsections⟩)
    · exact ⟨none, by rw [validate_of_rejected hrejected]; rfl⟩
    · obtain ⟨valid, hvalid⟩ := validate_of_hasSections hsections
      have hflat := flatten_eq_ok_iff.mpr ⟨sections, hsections, rfl⟩
      rw [hvalid]
      cases valid with
      | false => exact ⟨none, rfl⟩
      | true =>
          simp only [Except.bind, Bool.not_true, Bool.false_eq_true, if_false,
            hflat, Except.map]
          exact ⟨_, rfl⟩

/-- A configuration is created from sections that are there. -/
theorem hasSections_of_createConfig {cfg : Json.Object}
    (hfile : loadJson parse file = some config)
    (hcreated : createConfig parse file appId = .ok (some cfg)) :
    ∃ sections, HasSections config appId sections := by
  simp only [createConfig, hfile] at hcreated
  obtain ⟨valid, -, hcreated⟩ := bind_eq_ok.mp hcreated
  cases valid with
  | false => cases hcreated
  | true =>
      obtain ⟨flat, hflat, -⟩ := map_eq_ok.mp hcreated
      obtain ⟨sections, hsections, -⟩ := flatten_eq_ok_iff.mp hflat
      exact ⟨sections, hsections⟩

/-- No exception escapes.  What is valid is flattened into an object that has
the value of the most special section for every key.  Without the sections
there is no configuration, and an update changes nothing. -/
structure Usable (parse : String → Except Thrown Json) (file : Option String)
    (appId : String) (config : Json.Object) : Prop where
  hreturns : ∃ cfgOpt, createConfig parse file appId = .ok cfgOpt
  hflattens : validate config appId = .ok true →
    ∃ sections flat, HasSections config appId sections ∧
      flatten config appId = .ok flat ∧
      ∀ key, flat.lookup key = ((sections.app.lookup key).or
        (sections.group.lookup key)).or (sections.system.lookup key)
  hrejects : (¬ ∃ sections, HasSections config appId sections) →
    createConfig parse file appId = .ok none ∧
      ∀ configListener configValidator settings,
        onConfigUpdate parse file appId configListener configValidator
          settings = .ok settings

/-- A file that holds an object is handled as it should exactly when `validate`
finds something missing or all sections are there. -/
theorem usable_iff_guarded (parse : String → Except Thrown Json)
    (file : Option String) (appId : String) (config : Json.Object)
    (hfile : loadJson parse file = some config)
    (hkeyed : Json.WellKeyed (.object config)) :
    Usable parse file appId config ↔ Guarded config appId := by
  constructor
  · exact fun husable => (createConfig_returns_iff hfile).mp husable.hreturns
  · intro hguarded
    obtain ⟨cfgOpt, hcreated⟩ := (createConfig_returns_iff hfile).mpr hguarded
    refine ⟨⟨cfgOpt, hcreated⟩, fun hvalid => ?_, fun hnone => ?_⟩
    · rcases hguarded with hrejected | ⟨sections, hsections⟩
      · rw [validate_of_rejected hrejected] at hvalid
        cases hvalid
      · refine ⟨sections, _, hsections,
          flatten_eq_ok_iff.mpr ⟨sections, hsections, rfl⟩, ?_⟩
        obtain ⟨groups, apps, name, -, -, happs, happ, -, -⟩ := hsections
        exact lookup_merge ((hkeyed.member happs).member happ).distinct _ _
    · cases cfgOpt with
      | some cfg =>
          exact absurd (hasSections_of_createConfig hfile hcreated) hnone
      | none =>
          refine ⟨hcreated, fun configListener configValidator settings => ?_⟩
          rw [onConfigUpdate, hcreated]
          rfl

end File

/-- The sections of one app and its group. -/
def appSections : Json.Object :=
  [("groups", .object [("prices", .object [])]),
    ("apps", .object [("gateway", .object [("group", .string "prices")])])]

def systemSection : Json.Object :=
  ("system", .object [("logLevel", .string "info")]) :: appSections

/-- `json::parse` on the texts of two files. -/
def parseConfig (text : String) : Except Thrown Json :=
  match text with
  | "system" => .ok (.object systemSection)
  | "no system" => .ok (.object appSections)
  | _ => .error .parse

theorem wellKeyed_systemSection : Json.WellKeyed (.object systemSection) := by
  have hprices : Json.WellKeyed (.object [("prices", .object [])]) :=
    .object _ (by decide) (by simpa using .object _ (by decide) (by simp))
  have hgateway : Json.WellKeyed (.object [("group", .string "prices")]) :=
    .object _ (by decide) (by simpa using .string _)
  have happs : Json.WellKeyed
      (.object [("gateway", .object [("group", .string "prices")])]) :=
    .object _ (by decide) (by simpa using hgateway)
  have hsystem : Json.WellKeyed (.object [("logLevel", .string "info")]) :=
    .object _ (by decide) (by simpa using .string _)
  refine .object _ (by decide) ?_
  simpa [systemSection, appSections] using ⟨hsystem, hprices, happs⟩

theorem usable_iff_guarded_of_system :
    Usable parseConfig (some "system") "gateway" systemSection := by
  refine (usable_iff_guarded parseConfig (some "system") "gateway"
    systemSection rfl wellKeyed_systemSection).mpr (.inr ?_)
  exact ⟨⟨[("group", .string "prices")], [], [("logLevel", .string "info")]⟩,
    .intro _ _ "prices" rfl rfl rfl rfl rfl rfl⟩

/-- A file without a system section is valid, and the exception of `flatten`
escapes. -/
theorem unusable_without_system :
    loadJson parseConfig (some "no system") = some appSections ∧
      validate appSections "gateway" = .ok true ∧
      createConfig parseConfig (some "no system") "gateway" =
        .error .missing ∧
      ¬ Usable parseConfig (some "no system") "gateway" appSections := by
  have hthrown : createConfig parseConfig (some "no system") "gateway" =
      .error .missing := rfl
  refine ⟨rfl, rfl, hthrown, fun husable => ?_⟩
  obtain ⟨cfgOpt, hcreated⟩ := husable.hreturns
  rw [hthrown] at hcreated
  cases hcreated

end MultiMarketPrices.ConfigLib
