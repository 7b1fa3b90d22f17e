import MultiMarketPrices.ConfigLib.Startup
import MultiMarketPrices.Core.Outputs

/-!
# Edits of the watched file

The thread that `init` starts reads what inotify has queued about the
directory, and calls the listener once for each notification that names the
file.  The listener reads the file as it then is.  Others change the file at
any time, also while a notification waits; a change without a notification is
noticed with the next one.  The queue of inotify is taken not to overflow.
-/

namespace MultiMarketPrices.ConfigLib

/-- `IN_CLOSE_WRITE`, `IN_MOVED_TO`, `IN_CREATE`, and what is reported unasked,
which has no name. -/
inductive NotificationKind
  | closeWrite
  | movedTo
  | create
  | unasked
  deriving DecidableEq

structure Notification where
  kind : NotificationKind
  name : Option String
  deriving DecidableEq

/-- The file that is watched. -/
def filename : String := "config.json"

/-- The listener is called for the notification. -/
def Notification.calls (notification : Notification) : Bool :=
  notification.name = some filename && notification.kind ≠ .unasked

/-- Where the thread of `watch_file` stands. -/
inductive WatchPhase
  /-- with the notifications in its buffer that are left -/
  | handling (buffer : List Notification)
  | reading
  | ended
  deriving DecidableEq

structure Watcher where
  /-- what the file holds, if it is there -/
  file : Option String
  /-- the notifications that have not been read, oldest first -/
  queue : List Notification
  phase : WatchPhase
  stopFlag : Bool
  /-- an exception has left the listener -/
  died : Bool
  settings : Settings

inductive WatchEvent
  /-- a file is created, empty -/
  | create (name : String)
  /-- the file is written to and not closed -/
  | write (text : String)
  /-- a file that was open for writing is closed -/
  | closeWrite (name : String)
  /-- a file with a content takes the place of one -/
  | moveTo (name text : String)
  /-- the file is removed or moved away -/
  | remove
  /-- something about no file is reported -/
  | unasked
  | stop
  /-- the condition of the loop of `watch_file` -/
  | check
  /-- `read` returns at most so many notifications -/
  | read (count : ℕ)
  /-- `read` fails or returns nothing -/
  | readFails
  /-- the next notification of the buffer -/
  | handle

section Listener

variable (parse : String → Except Thrown Json) (appId : String)
  (configListener : Bool) (configValidator : Json.Object → Bool)

namespace Watcher

/-- The thread of a process that has read its configuration. -/
def start (file : Option String) (settings : Settings) : Watcher where
  file := file
  queue := []
  phase := .handling []
  stopFlag := false
  died := false
  settings := settings

/-- A notification like the last one that is queued is dropped. -/
def notify (kind : NotificationKind) (name : Option String)
    (watcher : Watcher) : Watcher :=
  if watcher.queue.getLast? = some ⟨kind, name⟩ then watcher
  else { watcher with queue := watcher.queue ++ [⟨kind, name⟩] }

/-- The file's content after something happened to a file of a name. -/
def contents (name text : String) (watcher : Watcher) : Option String :=
  if name = filename then some text else watcher.file

def listener (watcher : Watcher) : Watcher :=
  match onConfigUpdate parse watcher.file appId configListener configValidator
    watcher.settings with
  | .ok settings => { watcher with settings := settings }
  | .error _ => { watcher with died := true }

def step (watcher : Watcher) (event : WatchEvent) : Option Watcher :=
  if watcher.died then none
  else match event with
  | .create name =>
      if name = filename ∧ watcher.file ≠ none then none
      else
        some ({ watcher with file := watcher.contents name "" }.notify .create
          (some name))
  | .write text =>
      if watcher.file = none then none
      else some { watcher with file := some text }
  | .closeWrite name => some (watcher.notify .closeWrite (some name))
  | .moveTo name text =>
      some ({ watcher with file := watcher.contents name text }.notify .movedTo
        (some name))
  | .remove => some { watcher with file := none }
  | .unasked => some (watcher.notify .unasked none)
  | .stop => some { watcher with stopFlag := true }
  | .check =>
      if watcher.phase = .handling [] then
        some { watcher with phase :=
          if watcher.stopFlag then .ended else .reading }
      else none
  | .read count =>
      if watcher.phase = .reading ∧ 0 < count ∧ watcher.queue ≠ [] then
        some { watcher with
          phase := .handling (watcher.queue.take count)
          queue := watcher.queue.drop count }
      else none
  | .readFails =>
      if watcher.phase = .reading then some { watcher with phase := .ended }
      else none
  | .handle =>
      match watcher.phase with
      | .handling (notification :: rest) =>
          let watcher := { watcher with phase := .handling rest }
          some (if notification.calls then
            watcher.listener parse appId configListener configValidator
          else watcher)
      | _ => none

/-- The content with which the listener is called, if it is. -/
def versions (watcher : Watcher) : WatchEvent → List (Option String)
  | .handle =>
      match watcher.phase with
      | .handling (notification :: _) =>
          if notification.calls then [watcher.file] else []
      | _ => []
  | _ => []

end Watcher

/-! ## What a version of the file does -/

/-- The configuration of a file that is accepted and has a log level to read. -/
def applied (file : Option String) : Option Json.Object :=
  match createConfig parse file appId with
  | .ok (some cfg) =>
      if configValidator cfg && (cfg.cStrAt ConfigTag.logLevel).isOk then
        some cfg
      else none
  | _ => none

/-- A file with which the listener lets an exception out: an object that is not
guarded, or an accepted configuration whose log level is not a string. -/
def Fatal (file : Option String) : Prop :=
  (∃ config, loadJson parse file = some config ∧ ¬ Guarded config appId) ∨
    ∃ cfg, createConfig parse file appId = .ok (some cfg) ∧
      configValidator cfg = true ∧
      ∀ text, cfg.lookup ConfigTag.logLevel ≠ some (.string text)

end Listener

/-- What an accepted configuration does to the settings. -/
def Settings.apply (configListener : Bool) (settings : Settings)
    (cfg : Json.Object) : Settings where
  loggingLevel :=
    ((denotedLevel cfg).map nanoLogLevel).getD settings.loggingLevel
  notified := settings.notified ++ if configListener then [cfg] else []

variable {parse : String → Except Thrown Json} {appId : String}
  {configListener : Bool} {configValidator : Json.Object → Bool}
  {file : Option String}

theorem createConfig_error_iff :
    (∃ thrown, createConfig parse file appId = .error thrown) ↔
      ∃ config, loadJson parse file = some config ∧
        ¬ Guarded config appId := by
  cases hfile : loadJson parse file with
  | none => simp [createConfig, hfile]
  | some config =>
      have hreturns := @createConfig_returns_iff config appId parse file hfile
      cases hcreated : createConfig parse file appId with
      | ok cfgOpt => simpa [hcreated] using hreturns
      | error thrown => simpa [hcreated] using hreturns

/-- What the listener does with a file: an exception if it is fatal, and else
what the configuration does that is applied, if any. -/
theorem onConfigUpdate_spec (settings : Settings) :
    (Fatal parse appId configValidator file ∧
        applied parse appId configValidator file = none ∧
        ∃ thrown, onConfigUpdate parse file appId configListener
          configValidator settings = .error thrown) ∨
      ¬ Fatal parse appId configValidator file ∧
        onConfigUpdate parse file appId configListener configValidator
            settings =
          .ok ((applied parse appId configValidator file).elim settings
            (settings.apply configListener)) := by
  have hguarded := @createConfig_error_iff parse appId file
  simp only [Fatal, ← hguarded, onConfigUpdate, applied]
  cases hcreated : createConfig parse file appId with
  | error thrown => exact .inl ⟨.inl ⟨thrown, rfl⟩, rfl, thrown, rfl⟩
  | ok cfgOpt =>
      cases cfgOpt with
      | none => exact .inr ⟨by simp, rfl⟩
      | some cfg =>
          cases hvalid : configValidator cfg with
          | false =>
              exact .inr ⟨by simp [hvalid], by simp [Except.bind, hvalid]⟩
          | true =>
              cases hlevel : cfg.cStrAt ConfigTag.logLevel with
              | error thrown =>
                  left
                  refine ⟨.inr ⟨cfg, rfl, hvalid, fun text htext => ?_⟩, ?_,
                    thrown, ?_⟩
                  · rw [Json.Object.cStrAt_of_lookup htext] at hlevel
                    cases hlevel
                  · simp [hlevel, Except.isOk, Except.toBool]
                  · simp [Except.bind, hvalid, updateLogLevel, hlevel,
                      Except.map]
              | ok level =>
                  right
                  obtain ⟨text, htext, -⟩ := Json.Object.cStrAt_eq_ok.mp hlevel
                  refine ⟨?_, ?_⟩
                  · simp [htext]
                  · simp only [Except.bind, hvalid, updateLogLevel, hlevel,
                      Except.map, Except.isOk, Except.toBool, Bool.and_self,
                      if_true, Option.elim_some]
                    rw [Settings.apply, denotedLevel, hlevel]
                    cases hdenoted : strToLogLevel level <;>
                      cases configListener <;>
                        simp [Except.toOption, hdenoted]

namespace Watcher

/-! ## What one step does -/

variable {watcher next : Watcher}

/-- What an event can do. -/
inductive Stepped (parse : String → Except Thrown Json) (appId : String)
    (configListener : Bool) (configValidator : Json.Object → Bool)
    (watcher : Watcher) : WatchEvent → Watcher → Prop
  | create (name : String) (hnew : name = filename → watcher.file = none) :
      Stepped parse appId configListener configValidator watcher (.create name)
        ({ watcher with file := watcher.contents name "" }.notify .create
          (some name))
  | write (text : String) (hfile : watcher.file ≠ none) :
      Stepped parse appId configListener configValidator watcher (.write text)
        { watcher with file := some text }
  | closeWrite (name : String) :
      Stepped parse appId configListener configValidator watcher
        (.closeWrite name) (watcher.notify .closeWrite (some name))
  | moveTo (name text : String) :
      Stepped parse appId configListener configValidator watcher
        (.moveTo name text)
        ({ watcher with file := watcher.contents name text }.notify .movedTo
          (some name))
  | remove :
      Stepped parse appId configListener configValidator watcher .remove
        { watcher with file := none }
  | unasked :
      Stepped parse appId configListener configValidator watcher .unasked
        (watcher.notify .unasked none)
  | stop :
      Stepped parse appId configListener configValidator watcher .stop
        { watcher with stopFlag := true }
  | checked (hphase : watcher.phase = .handling [])
      (hgo : watcher.stopFlag = false) :
      Stepped parse appId configListener configValidator watcher .check
        { watcher with phase := .reading }
  | stopped (hphase : watcher.phase = .handling [])
      (hstop : watcher.stopFlag = true) :
      Stepped parse appId configListener configValidator watcher .check
        { watcher with phase := .ended }
  | read (count : ℕ) (hphase : watcher.phase = .reading) :
      Stepped parse appId configListener configValidator watcher (.read count)
        { watcher with
          phase := .handling (watcher.queue.take count)
          queue := watcher.queue.drop count }
  | readFails (hphase : watcher.phase = .reading) :
      Stepped parse appId configListener configValidator watcher .readFails
        { watcher with phase := .ended }
  | called (notification : Notification) (rest : List Notification)
      (hphase : watcher.phase = .handling (notification :: rest))
      (hcalls : notification.calls = true) :
      Stepped parse appId configListener configValidator watcher .handle
        (listener parse appId configListener configValidator
          { watcher with phase := .handling rest })
  | passed (notification : Notification) (rest : List Notification)
      (hphase : watcher.phase = .handling (notification :: rest))
      (hcalls : notification.calls = false) :
      Stepped parse appId configListener configValidator watcher .handle
        { watcher with phase := .handling rest }

theorem stepped_of_step {event : WatchEvent}
    (hstep : step parse appId configListener configValidator watcher event =
      some next) :
    watcher.died = false ∧
      Stepped parse appId configListener configValidator watcher event
        next := by
  unfold step at hstep
  split at hstep
  · cases hstep
  · next hlives =>
      refine ⟨by simpa using hlives, ?_⟩
      cases event with
      | create name =>
          dsimp only at hstep
          split at hstep
          · cases hstep
          · next hnew =>
              obtain rfl := Option.some.inj hstep
              exact .create name (by simpa using hnew)
      | write text =>
          dsimp only at hstep
          split at hstep
          · cases hstep
          · next hfile =>
              obtain rfl := Option.some.inj hstep
              exact .write text hfile
      | closeWrite name =>
          obtain rfl := Option.some.inj hstep
          exact .closeWrite name
      | moveTo name text =>
          obtain rfl := Option.some.inj hstep
          exact .moveTo name text
      | remove =>
          obtain rfl := Option.some.inj hstep
          exact .remove
      | unasked =>
          obtain rfl := Option.some.inj hstep
          exact .unasked
      | stop =>
          obtain rfl := Option.some.inj hstep
          exact .stop
      | check =>
          dsimp only at hstep
          split at hstep
          · next hphase =>
              obtain rfl := Option.some.inj hstep
              split
              · next hstop => exact .stopped hphase hstop
              · next hgo => exact .checked hphase (by simpa using hgo)
          · cases hstep
      | read count =>
          dsimp only at hstep
          split at hstep
          · next hread =>
              obtain rfl := Option.some.inj hstep
              exact .read count hread.1
          · cases hstep
      | readFails =>
          dsimp only at hstep
          split at hstep
          · next hphase =>
              obtain rfl := Option.some.inj hstep
              exact .readFails hphase
          · cases hstep
      | handle =>
          dsimp only at hstep
          split at hstep
          · next notification rest hphase =>
              obtain rfl := Option.some.inj hstep
              cases hcalls : notification.calls with
              | false => exact .passed notification rest hphase hcalls
              | true => exact .called notification rest hphase hcalls
          · cases hstep

@[simp]
theorem notify_file (kind : NotificationKind) (name : Option String) :
    (watcher.notify kind name).file = watcher.file := by
  rw [notify]
  split <;> rfl

@[simp]
theorem notify_phase (kind : NotificationKind) (name : Option String) :
    (watcher.notify kind name).phase = watcher.phase := by
  rw [notify]
  split <;> rfl

@[simp]
theorem notify_settings (kind : NotificationKind) (name : Option String) :
    (watcher.notify kind name).settings = watcher.settings := by
  rw [notify]
  split <;> rfl

@[simp]
theorem notify_died (kind : NotificationKind) (name : Option String) :
    (watcher.notify kind name).died = watcher.died := by
  rw [notify]
  split <;> rfl

theorem mem_notify_queue {kind : NotificationKind} {name : Option String}
    {notification : Notification} :
    notification ∈ (watcher.notify kind name).queue ↔
      notification ∈ watcher.queue ∨ notification = ⟨kind, name⟩ := by
  rw [notify]
  split
  · next hlast =>
      refine ⟨.inl, fun hmem => hmem.elim id fun heq => ?_⟩
      rw [heq]
      exact List.mem_of_getLast? hlast
  · simp

/-- What the listener makes of a file that holds anything. -/
theorem listener_spec (watcher : Watcher) (hlives : watcher.died = false) :
    (listener parse appId configListener configValidator watcher).file =
        watcher.file ∧
      (listener parse appId configListener configValidator watcher).phase =
        watcher.phase ∧
      (listener parse appId configListener configValidator watcher).queue =
        watcher.queue ∧
      ((listener parse appId configListener configValidator watcher).died =
          true ↔ Fatal parse appId configValidator watcher.file) ∧
      (listener parse appId configListener configValidator watcher).settings =
        (applied parse appId configValidator watcher.file).elim
          watcher.settings (watcher.settings.apply configListener) := by
  rcases @onConfigUpdate_spec parse appId configListener configValidator
    watcher.file watcher.settings with
    ⟨hfatal, hnone, thrown, hthrown⟩ | ⟨hfine, happlied⟩
  · simp [listener, hthrown, hfatal, hnone]
  · simp [listener, happlied, hfine, hlives]

/-! ## What a run does -/

/-- The settings are those that the versions the listener read make. -/
theorem step_settings {event : WatchEvent}
    (hstep : step parse appId configListener configValidator watcher event =
      some next) :
    next.settings = (watcher.versions event).foldl (fun settings version =>
        (applied parse appId configValidator version).elim settings
          (settings.apply configListener)) watcher.settings ∧
      (next.died = true ↔ ∃ version ∈ watcher.versions event,
        Fatal parse appId configValidator version) := by
  obtain ⟨hlives, hstepped⟩ := stepped_of_step hstep
  cases hstepped with
  | create name | closeWrite name | moveTo name | unasked =>
      simp [versions, hlives]
  | write text | remove | stop | checked | stopped | read | readFails =>
      simp [versions, hlives]
  | called notification rest hphase hcalls =>
      obtain ⟨-, -, -, hdied, hsettings⟩ := @listener_spec parse appId
        configListener configValidator
        { watcher with phase := .handling rest } hlives
      simp only [versions, hphase, hcalls, if_true, hsettings, hdied]
      simp
  | passed notification rest hphase hcalls =>
      simp [versions, hphase, hcalls, hlives]

/-- An event announces what the file holds, or changes it without a
notification. -/
def announce (known : Bool) : WatchEvent → Bool
  | .create name | .closeWrite name | .moveTo name _ => known || name = filename
  | .write _ | .remove => false
  | _ => known

/-- The last change of the file has been announced. -/
def announced (events : List WatchEvent) : Bool :=
  events.foldl announce true

/-- The thread has a notification before it with which it calls the
listener. -/
def Pending (watcher : Watcher) : Prop :=
  ∃ notification : Notification, notification.calls = true ∧
    (notification ∈ watcher.queue ∨
      ∃ buffer, watcher.phase = .handling buffer ∧ notification ∈ buffer)

theorem pending_notify (kind : NotificationKind) (name : Option String)
    (hpending : watcher.Pending) : (watcher.notify kind name).Pending := by
  obtain ⟨notification, hcalls, hqueue | ⟨buffer, hphase, hbuffer⟩⟩ := hpending
  · exact ⟨notification, hcalls, .inl (mem_notify_queue.mpr (.inl hqueue))⟩
  · exact ⟨notification, hcalls,
      .inr ⟨buffer, (notify_phase kind name).trans hphase, hbuffer⟩⟩

theorem pending_of_notify {kind : NotificationKind} (hkind : kind ≠ .unasked) :
    (watcher.notify kind (some filename)).Pending :=
  ⟨⟨kind, some filename⟩, by simp [Notification.calls, hkind],
    .inl (mem_notify_queue.mpr (.inr rfl))⟩

/-- The version that the listener read last is the one that the file holds,
unless the thread is still to call it, or has ended. -/
def Current (known : Bool) (last : Option String) (watcher : Watcher) : Prop :=
  known = true → watcher.phase = .ended ∨ watcher.Pending ∨
    last = watcher.file

/-- A notification about a file keeps what is current, also if the content of
the file changes with it. -/
theorem Current.notify {known : Bool} {last : Option String}
    (hcurrent : watcher.Current known last) {kind : NotificationKind}
    (hkind : kind ≠ .unasked) (name : String) (changed : Watcher)
    (hfile : name ≠ filename → changed.file = watcher.file)
    (hphase : changed.phase = watcher.phase)
    (hqueue : changed.queue = watcher.queue) :
    (changed.notify kind (some name)).Current (known || name = filename)
      last := by
  intro hknown
  by_cases hname : name = filename
  · rw [hname]
    exact .inr (.inl (pending_of_notify hkind))
  · rcases hcurrent (by simpa [hname] using hknown) with
      hended | ⟨notification, hcalls, hwaits⟩ | hlast
    · exact .inl (by rw [notify_phase, hphase, hended])
    · refine .inr (.inl (pending_notify kind (some name) ?_))
      exact ⟨notification, hcalls, by rwa [hqueue, hphase]⟩
    · exact .inr (.inr (by rw [notify_file, hfile hname, hlast]))

theorem Current.step {known : Bool} {last : Option String} {event : WatchEvent}
    (hcurrent : watcher.Current known last)
    (hstep : step parse appId configListener configValidator watcher event =
      some next) :
    next.Current (announce known event)
      ((watcher.versions event).getLast?.getD last) := by
  obtain ⟨hlives, hstepped⟩ := stepped_of_step hstep
  cases hstepped with
  | create name =>
      apply hcurrent.notify (by decide) name
      · intro hname
        rw [contents, if_neg hname]
      · rfl
      · rfl
  | closeWrite name =>
      apply hcurrent.notify (by decide) name
      · exact fun _ => rfl
      · rfl
      · rfl
  | moveTo name text =>
      apply hcurrent.notify (by decide) name
      · intro hname
        rw [contents, if_neg hname]
      · rfl
      · rfl
  | write text | remove =>
      exact fun hknown => absurd hknown (by simp [announce])
  | unasked =>
      intro hknown
      rcases hcurrent hknown with hended | hpending | hlast
      · exact .inl (by rw [notify_phase, hended])
      · exact .inr (.inl (pending_notify .unasked none hpending))
      · exact .inr (.inr (by simpa [versions] using hlast))
  | stop => exact hcurrent
  | checked hphase hgo =>
      intro hknown
      rcases hcurrent hknown with hended | hpending | hlast
      · rw [hended] at hphase
        cases hphase
      · obtain ⟨notification, hcalls, hqueue | ⟨buffer, hbuffer, hmem⟩⟩ :=
          hpending
        · exact .inr (.inl ⟨notification, hcalls, .inl hqueue⟩)
        · rw [hphase] at hbuffer
          cases hbuffer
          cases hmem
      · exact .inr (.inr hlast)
  | stopped | readFails => exact fun _ => .inl rfl
  | read count hphase =>
      intro hknown
      rcases hcurrent hknown with hended | hpending | hlast
      · rw [hended] at hphase
        cases hphase
      · obtain ⟨notification, hcalls, hqueue | ⟨buffer, hbuffer, -⟩⟩ := hpending
        · rw [← List.take_append_drop count watcher.queue,
            List.mem_append] at hqueue
          rcases hqueue with htaken | hleft
          · exact .inr (.inl ⟨notification, hcalls, .inr ⟨_, rfl, htaken⟩⟩)
          · exact .inr (.inl ⟨notification, hcalls, .inl hleft⟩)
        · rw [hphase] at hbuffer
          cases hbuffer
      · exact .inr (.inr hlast)
  | called notification rest hphase hcalls =>
      obtain ⟨hfile, -⟩ := @listener_spec parse appId configListener
        configValidator { watcher with phase := .handling rest } hlives
      intro _
      refine .inr (.inr ?_)
      simp [versions, hphase, hcalls, hfile]
  | passed notification rest hphase hcalls =>
      intro hknown
      rcases hcurrent hknown with hended | hpending | hlast
      · rw [hended] at hphase
        cases hphase
      · obtain ⟨other, hother, hqueue | ⟨buffer, hbuffer, hmem⟩⟩ := hpending
        · exact .inr (.inl ⟨other, hother, .inl hqueue⟩)
        · rw [hphase] at hbuffer
          cases hbuffer
          rcases List.mem_cons.mp hmem with rfl | hrest
          · rw [hcalls] at hother
            cases hother
          · exact .inr (.inl ⟨other, hother, .inr ⟨_, rfl, hrest⟩⟩)
      · exact .inr (.inr (by simpa [versions, hphase, hcalls] using hlast))

variable (parse appId configListener configValidator) in
/-- The versions of the file with which the listener is called in a run. -/
def seen (file : Option String) (settings : Settings)
    (events : List WatchEvent) : List (Option String) :=
  Runs.outputs (step parse appId configListener configValidator) versions
    (start file settings) events

/-- What versions make of the settings, all in all. -/
theorem foldl_apply (read : List (Option String)) (settings : Settings) :
    (read.foldl (fun settings version =>
        (applied parse appId configValidator version).elim settings
          (settings.apply configListener)) settings).notified =
        settings.notified ++ (if configListener then
          read.filterMap (applied parse appId configValidator) else []) ∧
      (read.foldl (fun settings version =>
        (applied parse appId configValidator version).elim settings
          (settings.apply configListener)) settings).loggingLevel =
        ((((read.filterMap (applied parse appId configValidator)).filterMap
          denotedLevel).getLast?).map nanoLogLevel).getD
            settings.loggingLevel := by
  induction read using List.reverseRecOn with
  | nil => simp
  | append_singleton read version ih =>
      obtain ⟨hnotified, hlevel⟩ := ih
      rw [List.foldl_concat, List.filterMap_append, List.filterMap_append]
      cases happlied : applied parse appId configValidator version with
      | none => simp [happlied, hnotified, hlevel]
      | some cfg =>
          constructor
          · cases configListener <;>
              simp_all [Settings.apply]
          · cases hdenoted : denotedLevel cfg <;>
              simp_all [Settings.apply]

/-- After any run, the listener has been told the configurations of the
versions read that are accepted, in order, the logging level is the last one
that these name, and the process has died exactly if one of the versions read
lets an exception out. -/
theorem settings_of_seen (file : Option String) (settings : Settings)
    (events : List WatchEvent) (watcher : Watcher)
    (hrun : Runs.run (step parse appId configListener configValidator)
      (start file settings) events = some watcher) :
    watcher.settings.notified = settings.notified ++
        (if configListener then
          (seen parse appId configListener configValidator file settings
            events).filterMap (applied parse appId configValidator)
        else []) ∧
      watcher.settings.loggingLevel =
        (((((seen parse appId configListener configValidator file settings
            events).filterMap (applied parse appId configValidator)).filterMap
              denotedLevel).getLast?).map nanoLogLevel).getD
          settings.loggingLevel ∧
      (watcher.died = true ↔
        ∃ version ∈ seen parse appId configListener configValidator file
          settings events, Fatal parse appId configValidator version) := by
  have hall : watcher.settings =
      (seen parse appId configListener configValidator file settings
        events).foldl (fun settings version =>
          (applied parse appId configValidator version).elim settings
            (settings.apply configListener)) settings ∧
      (watcher.died = true ↔
        ∃ version ∈ seen parse appId configListener configValidator file
          settings events, Fatal parse appId configValidator version) := by
    induction events using List.reverseRecOn generalizing watcher with
    | nil =>
        obtain rfl : start file settings = watcher := by simpa using hrun
        simp [seen, Runs.outputs, start]
    | append_singleton events event ih =>
        obtain ⟨middle, hmiddle, hlast⟩ := Runs.run_concat_eq_some.mp hrun
        obtain ⟨hsettings, hdied⟩ := ih middle hmiddle
        obtain ⟨hlives, -⟩ := stepped_of_step hlast
        obtain ⟨hnext, hdies⟩ := step_settings hlast
        rw [hlives] at hdied
        rw [seen, Runs.outputs_concat hmiddle hlast, ← seen, List.foldl_append,
          ← hsettings]
        refine ⟨hnext, hdies.trans ⟨?_, ?_⟩⟩
        · rintro ⟨version, hmem, hfatal⟩
          exact ⟨version, List.mem_append_right _ hmem, hfatal⟩
        · rintro ⟨version, hmem, hfatal⟩
          rcases List.mem_append.mp hmem with hbefore | hnow
          · exact absurd (hdied.mpr ⟨version, hbefore, hfatal⟩) (by simp)
          · exact ⟨version, hnow, hfatal⟩
  obtain ⟨hsettings, hdied⟩ := hall
  rw [hsettings]
  exact ⟨(foldl_apply _ settings).1, (foldl_apply _ settings).2, hdied⟩

/-- Every text is a configuration with every mandatory tag. -/
def parsesFull (_ : String) : Except Thrown Json :=
  .ok (.object fullConfig)

/-- The file is written anew, moved aside and written again before the listener
is called. -/
def edits : List WatchEvent :=
  [.check, .write "a", .closeWrite filename, .remove, .create filename,
    .write "b", .closeWrite filename, .read 2, .handle, .remove, .handle]

theorem settings_of_seen_of_edits :
    ∃ watcher, Runs.run (step parsesFull "gateway" true fun _ => true)
        (start (some "full") ⟨.error, []⟩) edits = some watcher ∧
      watcher.settings.notified = [] ++
        (if true then
          (seen parsesFull "gateway" true (fun _ => true) (some "full")
            ⟨.error, []⟩ edits).filterMap
              (applied parsesFull "gateway" fun _ => true)
        else []) ∧
      watcher.settings.notified.length = 1 ∧
      watcher.settings.loggingLevel = .notice := by
  obtain ⟨watcher, hrun, hlength, hlevel⟩ : ∃ watcher,
      Runs.run (step parsesFull "gateway" true fun _ => true)
        (start (some "full") ⟨.error, []⟩) edits = some watcher ∧
      watcher.settings.notified.length = 1 ∧
      watcher.settings.loggingLevel = .notice := ⟨_, rfl, rfl, rfl⟩
  exact ⟨watcher, hrun,
    (settings_of_seen (some "full") ⟨.error, []⟩ edits watcher hrun).1,
    hlength, hlevel⟩

/-- Whatever others did to the file, as long as they announced the last change:
once no notification waits and as long as the thread goes on, the version read
last, or else the one that the process started with, is what the file holds. -/
theorem seen_current_of_announced (file : Option String) (settings : Settings)
    (events : List WatchEvent) (hannounced : announced events = true)
    (watcher : Watcher)
    (hrun : Runs.run (step parse appId configListener configValidator)
      (start file settings) events = some watcher)
    (hgoes : watcher.phase ≠ .ended) (hidle : ¬ watcher.Pending) :
    (seen parse appId configListener configValidator file settings
      events).getLast?.getD file = watcher.file := by
  have hcurrent : watcher.Current (announced events)
      ((seen parse appId configListener configValidator file settings
        events).getLast?.getD file) := by
    clear hannounced hgoes hidle
    induction events using List.reverseRecOn generalizing watcher with
    | nil =>
        obtain rfl : start file settings = watcher := by simpa using hrun
        exact fun _ => .inr (.inr rfl)
    | append_singleton events event ih =>
        obtain ⟨middle, hmiddle, hlast⟩ := Runs.run_concat_eq_some.mp hrun
        have hnext := (ih middle hmiddle).step hlast
        rw [seen, Runs.outputs_concat hmiddle hlast, ← seen, announced,
          List.foldl_concat, ← announced, List.getLast?_append,
          Option.getD_or]
        exact hnext
  exact ((hcurrent hannounced).resolve_left hgoes).resolve_left hidle

/-- The file is changed again while the notification about the first change
waits, and read as it is in the end. -/
theorem seen_current_of_announced_of_edits :
    ∃ watcher, Runs.run (step parsesFull "gateway" true fun _ => true)
        (start (some "full") ⟨.error, []⟩)
        [.check, .write "a", .closeWrite filename, .write "b",
          .closeWrite filename, .read 2, .handle] = some watcher ∧
      (seen parsesFull "gateway" true (fun _ => true) (some "full")
        ⟨.error, []⟩ [.check, .write "a", .closeWrite filename, .write "b",
          .closeWrite filename, .read 2, .handle]).getLast?.getD
            (some "full") = watcher.file ∧
      watcher.file = some "b" := by
  obtain ⟨watcher, hrun, hfile, hphase, hqueue⟩ : ∃ watcher,
      Runs.run (step parsesFull "gateway" true fun _ => true)
        (start (some "full") ⟨.error, []⟩)
        [.check, .write "a", .closeWrite filename, .write "b",
          .closeWrite filename, .read 2, .handle] = some watcher ∧
      watcher.file = some "b" ∧ watcher.phase = .handling [] ∧
      watcher.queue = [] := ⟨_, rfl, rfl, rfl, rfl⟩
  refine ⟨watcher, hrun, seen_current_of_announced (some "full") ⟨.error, []⟩ _
    rfl watcher hrun (by simp [hphase]) ?_, hfile⟩
  rintro ⟨notification, -, hwaits | ⟨buffer, hbuffer, hmem⟩⟩
  · rw [hqueue] at hwaits
    cases hwaits
  · rw [hphase] at hbuffer
    cases hbuffer
    cases hmem

end Watcher

end MultiMarketPrices.ConfigLib
