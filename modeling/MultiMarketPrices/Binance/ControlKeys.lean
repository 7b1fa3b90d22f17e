import MultiMarketPrices.Binance.System
import MultiMarketPrices.PlatformComm.CommandKeys

/-!
# The keys that reach the session

`subscribe` and `unsubscribe` report a key without two tokens, and go on to
read both.  A key that is generated from a message has them; the key of a
record that arrives while a partition downloads is passed on as it is.
-/

namespace MultiMarketPrices.Binance

open PlatformComm WebSockets

/-- The key has a second part, which is a price type. -/
def NamesStream (key : String) : Prop :=
  ∃ symbol type rest, Text.split ':' key = symbol :: type :: rest ∧
    (strToPriceType type).isSome

namespace System

/-- The handler of `consumeAllControl`, with what it posts to the strand. -/
def control (system : System) (effect : Effect) : Except Thrown System :=
  (controlCall effect).map fun call =>
    { system with posted := system.posted ++ call.toList }

/-- The calls that a callback posts are posted command by command. -/
theorem foldlM_control (effects : List Effect) (system : System) :
    effects.foldlM control system =
      (controlCalls effects).map fun calls =>
        { system with posted := system.posted ++ calls } := by
  induction effects generalizing system with
  | nil => simp [controlCalls, Except.map, pure, Except.pure]
  | cons effect effects ih =>
      rw [List.foldlM_cons, control, controlCalls]
      cases controlCall effect with
      | error thrown => rfl
      | ok call =>
          simp only [Except.map, bind, Except.bind, ih]
          cases controlCalls effects with
          | error thrown => rfl
          | ok calls => simp

end System

/-- The command for a key is read without going past its tokens, and if the key
names no stream the session and its calls stay as they are. -/
structure TakenSafely (key : String) (cmd : SubUnsubVariant) : Prop where
  htaken : ∀ system : System, ∃ after,
    system.control (.control key cmd) = .ok after
  hunchanged : ¬ NamesStream key → ∀ system : System,
    system.control (.control key cmd) = .ok system

variable {key : String} {cmd : SubUnsubVariant}

/-! ## One key -/

theorem colon_mem_of_callFor {onTrade onDepth : String → Call}
    {call : Option Call} (hcall : callFor onTrade onDepth key = .ok call) :
    ':' ∈ key.toList := by
  rw [callFor] at hcall
  split at hcall
  · next symbol type rest hsplit => exact Text.mem_of_split hsplit
  · cases hcall

/-- The tokens are read, and the call depends on the price type. -/
theorem callFor_of_colon_mem (hcolon : ':' ∈ key.toList)
    (onTrade onDepth : String → Call) :
    ∃ call, callFor onTrade onDepth key = .ok call ∧
      (¬ NamesStream key → call = none) := by
  obtain ⟨symbol, type, rest, hsplit⟩ := Text.split_of_mem hcolon
  refine ⟨_, by rw [callFor, hsplit], fun hnames => ?_⟩
  rw [Option.map_eq_none_iff, ← Option.not_isSome_iff_eq_none]
  exact fun hsome => hnames ⟨symbol, type, rest, hsplit, hsome⟩

theorem colon_mem_of_controlCall {call : Option Call}
    (hcall : controlCall (.control key cmd) = .ok call) :
    ':' ∈ key.toList := by
  cases cmd with
  | subRequest | unsubRequest => exact colon_mem_of_callFor hcall

theorem controlCall_of_colon_mem (hcolon : ':' ∈ key.toList)
    (cmd : SubUnsubVariant) :
    ∃ call, controlCall (.control key cmd) = .ok call ∧
      (¬ NamesStream key → call = none) := by
  cases cmd with
  | subRequest => exact callFor_of_colon_mem hcolon _ _
  | unsubRequest => exact callFor_of_colon_mem hcolon _ _

/-- A colon is all that a key needs. -/
theorem takenSafely_iff_colon_mem : TakenSafely key cmd ↔ ':' ∈ key.toList := by
  constructor
  · rintro ⟨htaken, -⟩
    obtain ⟨after, hafter⟩ := htaken (.start 0)
    obtain ⟨call, hcall, -⟩ := map_eq_ok.mp hafter
    exact colon_mem_of_controlCall hcall
  · intro hcolon
    obtain ⟨call, hcall, hnone⟩ := controlCall_of_colon_mem hcolon cmd
    constructor
    · intro system
      exact ⟨_, by rw [System.control, hcall]; rfl⟩
    · intro hnames system
      rw [System.control, hcall, hnone hnames]
      simp [Except.map]

/-! ## Every key that arrives -/

/-- The key of a message has a colon. -/
theorem colon_mem_of_request {platform : Platform} {isSub : Bool}
    {msg destTopic : String}
    (hrequest : (onBinance platform).subUnsubRequest isSub msg =
      .ok (some (key, destTopic))) : ':' ∈ key.toList := by
  obtain ⟨request, hkey⟩ := generateKey_of_request hrequest
  exact colon_mem_of_generateKey hkey

/-- Every control command of a run is taken safely exactly when the key of each
record that arrives while its partition downloads has a colon. -/
theorem takenSafely_iff_recordKeys (platform : Platform)
    (events : List GatewayEvent) (finish : Record)
    (hrun : Runs.run (Record.step (onBinance platform)) .start events =
      some finish) :
    Runs.EveryStep (Record.step (onBinance platform))
        (fun record => RecordKeyIn (fun key => ':' ∈ key.toList)
          (onBinance platform) record.gateway) .start events ↔
      ∀ initial, initial <+: events → ∀ record,
        Runs.run (Record.step (onBinance platform)) .start initial =
          some record →
        ∀ key cmd, .control key cmd ∈ record.effects → TakenSafely key cmd := by
  rw [Record.keysIn_iff (fun _ _ _ _ hrequest => colon_mem_of_request hrequest)
    hrun]
  refine forall₄_congr fun initial _ record _ => ?_
  constructor
  · intro hkeys key cmd hmem
    exact takenSafely_iff_colon_mem.mpr (hkeys _ hmem)
  · intro hsafe effect hmem
    cases effect with
    | control key cmd => exact takenSafely_iff_colon_mem.mp (hsafe key cmd hmem)
    | request | produce | entered => trivial

/-- A record of partition 0 with a key. -/
def recordText (key : String) : String :=
  "\x7b\"group\":\"group:in:0\",\"key\":\"" ++ key ++ "\"\x7d"

/-- A platform on which the records of these keys parse. -/
def recordsPlatform (keys : List String) : Platform :=
  .ofTexts keyGenFunc keyDisintegrationFunc (keys.map fun key =>
    (recordText key,
      .object [("group", .string "group:in:0"), ("key", .string key)]))

theorem takenSafely_iff_recordKeys_of_trade :
    Runs.EveryStep (Record.step (onBinance (recordsPlatform ["BTC:trade"])))
        (fun record => RecordKeyIn (fun key => ':' ∈ key.toList)
          (onBinance (recordsPlatform ["BTC:trade"])) record.gateway) .start
        [.rebalance .partitionAssigned 0,
          .response (recordText "BTC:trade") false] ↔
      ∀ initial, initial <+:
          [.rebalance .partitionAssigned 0,
            .response (recordText "BTC:trade") false] →
        ∀ record,
          Runs.run (Record.step (onBinance (recordsPlatform ["BTC:trade"])))
            .start initial = some record →
          ∀ key cmd, .control key cmd ∈ record.effects →
            TakenSafely key cmd :=
  takenSafely_iff_recordKeys (recordsPlatform ["BTC:trade"]) _ _ rfl

/-- The key of a record is passed on, and read past its only token. -/
theorem record_without_colon :
    ∃ record, Runs.run (Record.step (onBinance (recordsPlatform ["BTC"])))
        .start
        [.rebalance .partitionAssigned 0,
          .response (recordText "BTC") false] = some record ∧
      .control "BTC" (.subRequest []) ∈ record.effects ∧
      subscribe "BTC" = .error .index ∧
      ¬ TakenSafely "BTC" (.subRequest []) := by
  refine ⟨_, rfl, ?_, rfl, ?_⟩
  · exact List.mem_append_right _ (List.mem_singleton.mpr rfl)
  · rintro ⟨htaken, -⟩
    obtain ⟨after, hafter⟩ := htaken (.start 0)
    cases hafter

end MultiMarketPrices.Binance
