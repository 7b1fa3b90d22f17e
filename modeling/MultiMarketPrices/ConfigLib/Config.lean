import MultiMarketPrices.Core.Json

/-!
# Configuration

ConfigLib.cpp reads the configuration of an app from a file with a section for
the system, one for each group, and one for each app, which names its group.
The three sections are flattened into one object, the more special one first.
What is written to the log and to the console is left out.

A file is its content, or `none` if it cannot be opened.  The conversions of
JSON values throw; only `load_json` catches.
-/

namespace MultiMarketPrices.ConfigLib

/-! ## The names in the file -/

namespace ConfigTag

@[simp]
abbrev system : String := "system"

@[simp]
abbrev groups : String := "groups"

@[simp]
abbrev group : String := "group"

@[simp]
abbrev apps : String := "apps"

@[simp]
abbrev appId : String := "appId"

@[simp]
abbrev brokers : String := "brokers"

@[simp]
abbrev hearbeatInterval : String := "hearbeatInterval"

@[simp]
abbrev hearbeatTimeout : String := "hearbeatTimeout"

@[simp]
abbrev numMaxBrokers : String := "numMaxBrokers"

@[simp]
abbrev numMinBrokers : String := "numMinBrokers"

@[simp]
abbrev logLevel : String := "logLevel"

@[simp]
abbrev registrationsTopic : String := "registrationsTopic"

@[simp]
abbrev heartbeatsTopic : String := "heartbeatsTopic"

@[simp]
abbrev statusTopic : String := "statusTopic"

@[simp]
abbrev syncDataRequestTopic : String := "syncDataRequestTopic"

@[simp]
abbrev syncDataTopic : String := "syncDataTopic"

end ConfigTag

/-! ## Log levels -/

inductive LoggingLevel
  | error
  | warning
  | info
  | debug
  deriving DecidableEq

/-- `NanoLog::LogLevels`, as far as it is used. -/
inductive NanoLogLevel
  | error
  | warning
  | notice
  | debug
  deriving DecidableEq

def strToLogLevel (logLevel : String) : Option LoggingLevel :=
  let uppered := Text.upper logLevel
  if uppered = "ERROR" then some .error
  else if uppered = "WARNING" then some .warning
  else if uppered = "INFO" then some .info
  else if uppered = "DEBUG" then some .debug
  else none

/-- The level that `Logging::init` and `Logging::setLoggingLevel` set. -/
def nanoLogLevel (logLevel : LoggingLevel) : NanoLogLevel :=
  if logLevel = .error then .error
  else if logLevel = .warning then .warning
  else if logLevel = .info then .notice
  else .debug

/-! ## Reading the file -/

section File

variable (parse : String → Except Thrown Json)

/-- Any exception is caught. -/
def loadJson (file : Option String) : Option Json.Object :=
  file.bind fun text => ((parse text).bind Json.asObject).toOption

/-- The first loop of `merge`. -/
def copyInto (members res : Json.Object) : Json.Object :=
  members.foldl (fun res member => res.assign member.1 member.2) res

/-- The second and the third loop of `merge`. -/
def fillInto (members res : Json.Object) : Json.Object :=
  members.foldl (fun res member =>
    if !res.contains member.1 then res.assign member.1 member.2 else res) res

def merge (app group system : Json.Object) : Json.Object :=
  fillInto system (fillInto group (copyInto app []))

def flatten (config : Json.Object) (appId : String) :
    Except Thrown Json.Object :=
  ((config.atKey ConfigTag.system).bind Json.asObject).bind fun systemObj =>
  ((config.atKey ConfigTag.groups).bind Json.asObject).bind fun groupsObj =>
  ((config.atKey ConfigTag.apps).bind Json.asObject).bind fun appsObj =>
  ((appsObj.atKey appId).bind Json.asObject).bind fun appObj =>
  ((appObj.atKey ConfigTag.group).bind Json.asString).bind fun appGroup =>
  ((groupsObj.atKey appGroup).bind Json.asObject).map fun groupObj =>
    merge appObj groupObj systemObj

def mandatoryTags : List String :=
  [ConfigTag.brokers, ConfigTag.hearbeatInterval, ConfigTag.hearbeatTimeout,
    ConfigTag.numMaxBrokers, ConfigTag.numMinBrokers, ConfigTag.logLevel,
    ConfigTag.registrationsTopic, ConfigTag.heartbeatsTopic,
    ConfigTag.statusTopic, ConfigTag.syncDataRequestTopic,
    ConfigTag.syncDataTopic]

def checkMandatoryTagsPresent (obj : Json.Object) : Bool :=
  mandatoryTags.all fun tag => obj.contains tag

/-- The system section is not looked at.  The group's name is cut at its first
NUL, which `flatten` does not do. -/
def validate (obj : Json.Object) (appId : String) : Except Thrown Bool :=
  if !obj.contains ConfigTag.groups then .ok false
  else if !obj.contains ConfigTag.apps then .ok false
  else
    ((obj.atKey ConfigTag.apps).bind Json.asObject).bind fun apps =>
    ((obj.atKey ConfigTag.groups).bind Json.asObject).bind fun groups =>
      if !apps.contains appId then .ok false
      else
        ((apps.atKey appId).bind Json.asObject).bind fun appSection =>
          if !appSection.contains ConfigTag.group then .ok false
          else
            (appSection.cStrAt ConfigTag.group).map fun group =>
              groups.contains group

def createConfig (file : Option String) (appId : String) :
    Except Thrown (Option Json.Object) :=
  match loadJson parse file with
  | none => .ok none
  | some config =>
      (validate config appId).bind fun valid =>
        if !valid then .ok none
        else (flatten config appId).map fun flattenned =>
          if !checkMandatoryTagsPresent flattenned then none
          else some (flattenned.assign ConfigTag.appId (.string appId))

/-! ## Updates -/

/-- What an update of the file can change. -/
structure Settings where
  loggingLevel : NanoLogLevel
  /-- what the `ConfigListener` has been called with -/
  notified : List Json.Object

def updateLogLevel (cfg : Json.Object) (settings : Settings) :
    Except Thrown Settings :=
  (cfg.cStrAt ConfigTag.logLevel).map fun logLevelStr =>
    match strToLogLevel logLevelStr with
    | some level => { settings with loggingLevel := nanoLogLevel level }
    | none => settings

/-- `configListener` tells whether there is one. -/
def onConfigUpdate (file : Option String) (appId : String)
    (configListener : Bool) (configValidator : Json.Object → Bool)
    (settings : Settings) : Except Thrown Settings :=
  (createConfig parse file appId).bind fun cfgOpt =>
    match cfgOpt with
    | none => .ok settings
    | some cfg =>
        if configValidator cfg then
          (updateLogLevel cfg settings).map fun settings =>
            if configListener then
              { settings with notified := settings.notified ++ [cfg] }
            else settings
        else .ok settings

/-! ## Startup -/

/-- What `init` leaves behind. -/
structure Startup where
  /-- the result of `init`, or the exception that leaves it -/
  result : Except Thrown (Option Json.Object)
  /-- whether `*cfg_opt` was read while `cfg_opt` was empty -/
  absentRead : Bool
  /-- the level that `Logging::init` was called with, if it was called -/
  logging : Option NanoLogLevel
  /-- whether the thread that watches the file was started -/
  watching : Bool

/-- Reading an empty `optional` is undefined; `absent` is what is found there,
and what follows runs on it. -/
def init (file : Option String) (appId : String) (absent : Json.Object) :
    Startup :=
  match createConfig parse file appId with
  | .error thrown => ⟨.error thrown, false, none, false⟩
  | .ok (some cfg) => ⟨.ok (some cfg), false, none, true⟩
  | .ok none =>
      if !absent.contains ConfigTag.logLevel then ⟨.ok none, true, none, false⟩
      else
        match absent.cStrAt ConfigTag.logLevel with
        | .error thrown => ⟨.error thrown, true, none, false⟩
        | .ok logLevelStr =>
            match strToLogLevel logLevelStr with
            | none => ⟨.ok none, true, none, false⟩
            | some logLevel =>
                ⟨.ok none, true, some (nanoLogLevel logLevel), false⟩

end File

end MultiMarketPrices.ConfigLib
