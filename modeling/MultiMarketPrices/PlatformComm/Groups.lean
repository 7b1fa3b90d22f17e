import MultiMarketPrices.Core.Numerals
import MultiMarketPrices.PlatformComm.Gateway

/-!
# Group identifiers

A rebalance asks for the sync data of `appGroup:inTopic:partition`, and each
response names the group it is for.  `responseCb` reads the partition off any
identifier of three parts, and looks at no more than the last one, with `atoi`.
-/

namespace MultiMarketPrices.PlatformComm

/-- The text has three parts, and `atoi` reads the last one as the
partition. -/
def EndsInPartition (text : String) (partition : ℤ) : Prop :=
  ∃ first second last : String,
    (':' ∉ first.toList ∧ ':' ∉ second.toList ∧ ':' ∉ last.toList) ∧
    text.toList = first.toList ++ ':' :: (second.toList ++ ':' :: last.toList) ∧
    Text.atoi last = partition

theorem groupPartition_eq_some_iff {text : String} {partition : ℤ} :
    Platform.groupPartition text = some partition ↔
      EndsInPartition text partition := by
  rw [Platform.groupPartition]
  constructor
  · intro hpartition
    split at hpartition
    · next first second last hsplit =>
        obtain ⟨hfree, htext⟩ := Text.split_eq_triple_iff.mp hsplit
        exact ⟨first, second, last, hfree, htext, Option.some.inj hpartition⟩
    · exact absurd hpartition (by simp)
  · rintro ⟨first, second, last, hfree, htext, rfl⟩
    rw [Text.split_eq_triple_iff.mpr ⟨hfree, htext⟩]

namespace Platform

variable (platform : Platform)

/-- The partition whose machine a response is for, the machine, and the event
that it is given. -/
def delivery (msg : String) (isLast : Bool) (gateway : Gateway) :
    Except Thrown (Option (ℤ × Fsm × FsmEvent)) :=
  (platform.responseObject msg).bind fun jsonObj =>
    (jsonObj.cStrAt "group").map fun group =>
      (groupPartition group).bind fun partition =>
        (gateway.partitionFSMs.lookup partition).map fun existingFSM =>
          (partition, existingFSM,
            if isLast then .downloadEnd jsonObj
              else .subscriptionRecord jsonObj)

/-- A response does nothing but let one machine handle one event. -/
theorem responseCb_eq_delivery (msg : String) (isLast : Bool)
    (gateway : Gateway) :
    platform.responseCb msg isLast gateway =
      (platform.delivery msg isLast gateway).bind fun
        | none => .ok (gateway, [])
        | some (partition, existingFSM, event) =>
            platform.handleEvent partition existingFSM event gateway := by
  rw [responseCb, delivery]
  cases platform.responseObject msg with
  | error thrown => rfl
  | ok jsonObj =>
      simp only [Except.bind]
      cases jsonObj.cStrAt "group" with
      | error thrown => rfl
      | ok group =>
          simp only [Except.map]
          cases groupPartition group with
          | none => rfl
          | some partition =>
              simp only [Option.bind_some]
              cases gateway.partitionFSMs.lookup partition <;> rfl

/-- A response reaches the machine of a partition. -/
def Delivers (gateway : Gateway) (msg : String) (isLast : Bool)
    (partition : ℤ) : Prop :=
  ∃ existingFSM event,
    platform.delivery msg isLast gateway =
      .ok (some (partition, existingFSM, event))

variable {platform} {gateway : Gateway} {msg group : String}
variable {jsonObj : Json.Object} {partition : ℤ} {fsm : Fsm}

theorem delivers_iff_endsInPartition (isLast : Bool)
    (hparse : platform.parse msg = .ok (.object jsonObj))
    (hgroup : jsonObj.lookup "group" = some (.string group))
    (hfsm : gateway.partitionFSMs.lookup partition = some fsm) :
    platform.Delivers gateway msg isLast partition ↔
      EndsInPartition (Text.cStr group) partition := by
  have hdelivery : platform.delivery msg isLast gateway =
      .ok ((groupPartition (Text.cStr group)).bind fun other =>
        (gateway.partitionFSMs.lookup other).map fun existingFSM =>
          (other, existingFSM,
            if isLast then .downloadEnd jsonObj
              else .subscriptionRecord jsonObj)) := by
    simp [delivery, responseObject, hparse, Json.Object.cStrAt_of_lookup hgroup,
      Except.bind, Except.map]
  rw [← groupPartition_eq_some_iff, Delivers, hdelivery]
  constructor
  · rintro ⟨existingFSM, event, hsome⟩
    rw [Except.ok.injEq, Option.bind_eq_some_iff] at hsome
    obtain ⟨other, hother, hmap⟩ := hsome
    obtain ⟨_, -, hsame⟩ := Option.map_eq_some_iff.mp hmap
    rw [hother, (Prod.mk.inj hsame).1]
  · intro hpartition
    rw [hpartition, Option.bind_some, hfsm, Option.map_some]
    exact ⟨fsm, _, rfl⟩

/-! ## The identifiers of the gateway itself -/

variable (platform)

theorem toList_group (partition : ℤ) :
    (platform.group partition).toList =
      platform.appGroup.toList ++
        ':' :: (platform.inTopic.toList ++
          ':' :: (toString partition).toList) := by
  simp [group, String.toList_append]

theorem colon_not_mem_toString (partition : ℤ) :
    ':' ∉ (toString partition).toList :=
  Text.not_mem_toString (by decide) (by decide) partition

variable {platform}

/-- An identifier of the gateway comes back to its partition when the names in
it have no colon. -/
theorem endsInPartition_group_iff (hlow : -2 ^ 31 ≤ partition)
    (hhigh : partition < 2 ^ 31) :
    EndsInPartition (platform.group partition) partition ↔
      ':' ∉ platform.appGroup.toList ∧ ':' ∉ platform.inTopic.toList := by
  constructor
  · rintro ⟨first, second, last, ⟨hfirst, hsecond, hlast⟩, htext, -⟩
    rw [toList_group] at htext
    -- two colons are all there are in three parts
    have hcount := congrArg (List.count ':') htext
    simp only [List.count_append, List.count_cons_self,
      List.count_eq_zero_of_not_mem hfirst,
      List.count_eq_zero_of_not_mem hsecond,
      List.count_eq_zero_of_not_mem hlast,
      List.count_eq_zero_of_not_mem (colon_not_mem_toString partition)]
      at hcount
    exact ⟨List.count_eq_zero.mp (by omega), List.count_eq_zero.mp (by omega)⟩
  · rintro ⟨happGroup, hinTopic⟩
    exact ⟨platform.appGroup, platform.inTopic, toString partition,
      ⟨happGroup, hinTopic, colon_not_mem_toString partition⟩,
      toList_group platform partition, Text.atoi_toString hlow hhigh⟩

theorem cStr_group (happGroup : '\x00' ∉ platform.appGroup.toList)
    (hinTopic : '\x00' ∉ platform.inTopic.toList) (partition : ℤ) :
    Text.cStr (platform.group partition) = platform.group partition := by
  apply Text.cStr_eq_self
  have hnumber : '\x00' ∉ (toString partition).toList :=
    Text.not_mem_toString (by decide) (by decide) partition
  rw [toList_group]
  simpa using ⟨happGroup, hinTopic, hnumber⟩

/-! ## Who is reached -/

/-- A response reaches the machine of a partition just when it names the group
of that partition, unless that group has a colon in its names, or another text
of three parts ends in the partition.  The names are made from C strings. -/
theorem delivers_iff_group_iff (platform : Platform) (gateway : Gateway)
    (msg group : String) (jsonObj : Json.Object) (isLast : Bool)
    (partition : ℤ) (fsm : Fsm)
    (hlow : -2 ^ 31 ≤ partition) (hhigh : partition < 2 ^ 31)
    (happGroup : '\x00' ∉ platform.appGroup.toList)
    (hinTopic : '\x00' ∉ platform.inTopic.toList)
    (hparse : platform.parse msg = .ok (.object jsonObj))
    (hgroup : jsonObj.lookup "group" = some (.string group))
    (hfsm : gateway.partitionFSMs.lookup partition = some fsm) :
    (platform.Delivers gateway msg isLast partition ↔
        group = platform.group partition) ↔
      (group = platform.group partition ∧
          ':' ∉ platform.appGroup.toList ∧ ':' ∉ platform.inTopic.toList) ∨
        (group ≠ platform.group partition ∧
          ¬ EndsInPartition (Text.cStr group) partition) := by
  rw [delivers_iff_endsInPartition isLast hparse hgroup hfsm]
  by_cases hsame : group = platform.group partition
  · rw [hsame, cStr_group happGroup hinTopic,
      endsInPartition_group_iff hlow hhigh]
    simp
  · simp [hsame]

/-- A gateway whose one partition is 0, still downloading. -/
def downloadingZero : Gateway where
  book := .empty
  partitionFSMs := (∅ : Finmap fun _ : ℤ => Fsm).insert 0 perPartitionFSM.start.1

theorem downloadingZero_lookup :
    downloadingZero.partitionFSMs.lookup 0 = some perPartitionFSM.start.1 :=
  Finmap.lookup_insert _

theorem delivers_iff_group_iff_of_own_group :
    (endOfDownload.Delivers downloadingZero endOfDownloadText true 0 ↔
        "group:in:0" = endOfDownload.group 0) ↔
      ("group:in:0" = endOfDownload.group 0 ∧
          ':' ∉ endOfDownload.appGroup.toList ∧
          ':' ∉ endOfDownload.inTopic.toList) ∨
        ("group:in:0" ≠ endOfDownload.group 0 ∧
          ¬ EndsInPartition (Text.cStr "group:in:0") 0) :=
  delivers_iff_group_iff endOfDownload downloadingZero endOfDownloadText
    "group:in:0" [("group", .string "group:in:0")] true 0
    perPartitionFSM.start.1 (by decide) (by decide) (by decide) (by decide)
    rfl rfl downloadingZero_lookup

/-- A response for a group of another application, with no number in it. -/
def otherGroupText : String := "\x7b\"group\":\"other:topic:zero\"\x7d"

/-- A gateway that hears of the group of another application. -/
def otherGroup : Platform :=
  ofTexts (fun _ => none) (fun _ => .error .index)
    [(otherGroupText, .object [("group", .string "other:topic:zero")])]

/-- What belongs to another group ends the download of partition 0. -/
theorem other_group_delivered :
    ¬ (otherGroup.Delivers downloadingZero otherGroupText true 0 ↔
      "other:topic:zero" = otherGroup.group 0) := by
  intro hiff
  have hdelivers :
      otherGroup.Delivers downloadingZero otherGroupText true 0 := by
    apply (delivers_iff_endsInPartition true rfl rfl
      downloadingZero_lookup).mpr
    exact ⟨"other", "topic", "zero", by decide, by decide, by decide⟩
  exact absurd (hiff.mp hdelivers) (by decide)

end Platform

end MultiMarketPrices.PlatformComm
