import MultiMarketPrices.Core.Text

/-!
# JSON values

The part of `boost::json` that the gateway uses.  An object keeps its members
in a list, in which a key occurs once.  The conversions throw, and so does
`at`; `operator[]` inserts a null member instead.
-/

namespace MultiMarketPrices

/-- The exceptions that the code can raise. -/
inductive Thrown
  /-- `json::parse` rejects its input -/
  | parse
  /-- `as_object`, `as_string` and the like on another kind of value -/
  | kind
  /-- `at` finds no such member -/
  | missing
  /-- an index past the end, which the code does not check -/
  | index
  deriving DecidableEq

theorem bind_eq_ok {A B : Type*} {computation : Except Thrown A}
    {rest : A → Except Thrown B} {result : B} :
    computation.bind rest = .ok result ↔
      ∃ value, computation = .ok value ∧ rest value = .ok result := by
  cases computation <;> simp [Except.bind]

theorem map_eq_ok {A B : Type*} {computation : Except Thrown A} {f : A → B}
    {result : B} :
    computation.map f = .ok result ↔
      ∃ value, computation = .ok value ∧ f value = result := by
  cases computation <;> simp [Except.map]

inductive Json
  | null
  | bool (value : Bool)
  | int64 (value : ℤ)
  | uint64 (value : ℕ)
  | double (bits : BitVec 64)
  | string (value : String)
  | array (values : List Json)
  | object (members : List (String × Json))

namespace Json

abbrev Object := List (String × Json)

def asObject : Json → Except Thrown Object
  | object members => .ok members
  | _ => .error .kind

def asArray : Json → Except Thrown (List Json)
  | array values => .ok values
  | _ => .error .kind

def asString : Json → Except Thrown String
  | string value => .ok value
  | _ => .error .kind

@[simp]
theorem asObject_object (members : Object) :
    (object members).asObject = .ok members := rfl

@[simp]
theorem asString_string (value : String) :
    (string value).asString = .ok value := rfl

theorem asObject_eq_ok {value : Json} {members : Object} :
    value.asObject = .ok members ↔ value = object members := by
  cases value <;> simp [asObject]

theorem asString_eq_ok {value : Json} {text : String} :
    value.asString = .ok text ↔ value = string text := by
  cases value <;> simp [asString]

namespace Object

/-- `obj.at(key)` -/
def atKey (members : Object) (key : String) : Except Thrown Json :=
  match members.lookup key with
  | some value => .ok value
  | none => .error .missing

/-- `obj.at(key).as_string().c_str()` -/
def cStrAt (members : Object) (key : String) : Except Thrown String :=
  ((members.atKey key).bind asString).map Text.cStr

def contains (members : Object) (key : String) : Bool :=
  (members.lookup key).isSome

/-- The value read by `obj[key]`. -/
def get (members : Object) (key : String) : Json :=
  (members.lookup key).getD .null

/-- `obj[key] = value`: a new member goes to the end. -/
def assign (members : Object) (key : String) (value : Json) : Object :=
  if members.contains key then
    members.map fun member => if member.1 = key then (key, value) else member
  else
    members ++ [(key, value)]

/-- `obj.erase(key)` moves the last member to the place of the erased one. -/
def erase (members : Object) (key : String) : Object :=
  match members.findIdx? (fun member => member.1 = key), members.getLast? with
  | some place, some last => (List.set members place last).dropLast
  | _, _ => members

theorem atKey_eq_ok {members : Object} {key : String} {value : Json} :
    members.atKey key = .ok value ↔ members.lookup key = some value := by
  rw [atKey]
  cases members.lookup key <;> simp

/-- The text of a string member is read. -/
theorem asString_atKey_eq_ok {members : Object} {key text : String} :
    (members.atKey key).bind asString = .ok text ↔
      members.lookup key = some (.string text) := by
  simp only [bind_eq_ok, atKey_eq_ok, asString_eq_ok, exists_eq_right]

/-- An object member is read. -/
theorem asObject_atKey_eq_ok {members obj : Object} {key : String} :
    (members.atKey key).bind asObject = .ok obj ↔
      members.lookup key = some (.object obj) := by
  simp only [bind_eq_ok, atKey_eq_ok, asObject_eq_ok, exists_eq_right]

theorem cStrAt_eq_ok {members : Object} {key text : String} :
    members.cStrAt key = .ok text ↔
      ∃ value, members.lookup key = some (.string value) ∧
        Text.cStr value = text := by
  simp only [cStrAt, map_eq_ok, asString_atKey_eq_ok]

theorem cStrAt_of_lookup {members : Object} {key value : String}
    (hlookup : members.lookup key = some (.string value)) :
    members.cStrAt key = .ok (Text.cStr value) := by
  simp [cStrAt, atKey, hlookup, Except.bind, Except.map]

theorem lookup_replace {members : Object} {key : String} (value : Json)
    (hcontains : members.contains key = true) :
    (members.map fun member =>
      if member.1 = key then (key, value) else member).lookup key =
      some value := by
  induction members with
  | nil => simp [contains] at hcontains
  | cons member members ih =>
      obtain ⟨name, old⟩ := member
      by_cases hsame : name = key
      · simp [hsame]
      · have hother : (key == name) = false := by simpa using Ne.symm hsame
        rw [contains, List.lookup_cons, hother] at hcontains
        rw [List.map_cons, if_neg hsame, List.lookup_cons, hother]
        exact ih hcontains

theorem lookup_replace_of_ne {members : Object} {key other : String}
    (value : Json) (hother : other ≠ key) :
    (members.map fun member =>
      if member.1 = key then (key, value) else member).lookup other =
      members.lookup other := by
  have hfalse : (other == key) = false := by simpa using hother
  induction members with
  | nil => rfl
  | cons member members ih =>
      obtain ⟨name, old⟩ := member
      by_cases hsame : name = key
      · subst hsame
        simp only [List.map_cons, if_true, List.lookup_cons, hfalse]
        exact ih
      · simp only [List.map_cons, if_neg hsame, List.lookup_cons, ih]

/-- An assignment changes what is found under its key. -/
theorem lookup_assign (members : Object) (key : String) (value : Json)
    (other : String) :
    (members.assign key value).lookup other =
      if other = key then some value else members.lookup other := by
  rw [assign]
  split
  · next hcontains =>
      split
      · next hsame => rw [hsame, lookup_replace value hcontains]
      · next hother => exact lookup_replace_of_ne value hother
  · next hmissing =>
      have hnone : members.lookup key = none := by
        rwa [contains, Option.not_isSome_iff_eq_none] at hmissing
      rw [List.lookup_append]
      split
      · next hsame => simp [hsame, hnone]
      · next hother =>
          have hfalse : (other == key) = false := by simpa using hother
          simp [List.lookup_cons, hfalse]

/-- What has been assigned is read. -/
theorem get_assign (members : Object) (key : String) (value : Json) :
    (members.assign key value).get key = value := by
  rw [get, lookup_assign, if_pos rfl, Option.getD_some]

theorem get_assign_of_ne (members : Object) {key other : String}
    (value : Json) (hother : other ≠ key) :
    (members.assign key value).get other = members.get other := by
  rw [get, lookup_assign, if_neg hother, get]

theorem lookup_of_contains {members : Object} {key : String}
    (hcontains : members.contains key = true) :
    members.lookup key = some (members.get key) := by
  obtain ⟨value, hlookup⟩ := Option.isSome_iff_exists.mp hcontains
  rw [get, hlookup, Option.getD_some]

/-- What is read as something other than null is there. -/
theorem lookup_of_get {members : Object} {key : String} {value : Json}
    (hget : members.get key = value) (hvalue : value ≠ .null) :
    members.lookup key = some value := by
  rw [get] at hget
  cases hlookup : members.lookup key with
  | none =>
      rw [hlookup] at hget
      exact absurd hget.symm hvalue
  | some found =>
      rw [hlookup] at hget
      exact congrArg some hget

/-! ### Distinct keys -/

/-- A key occurs once. -/
def Distinct (members : Object) : Prop := (members.map Prod.fst).Nodup

instance (members : Object) : Decidable members.Distinct :=
  inferInstanceAs (Decidable (members.map Prod.fst).Nodup)

theorem contains_iff {members : Object} {key : String} :
    members.contains key = true ↔ key ∈ members.map Prod.fst := by
  simp [contains, List.lookup_isSome_iff]

theorem Distinct.assign {members : Object} (hdistinct : members.Distinct)
    (key : String) (value : Json) : (members.assign key value).Distinct := by
  rw [Distinct, Object.assign]
  split
  · have hkeys : (members.map fun member =>
        if member.1 = key then (key, value) else member).map Prod.fst =
        members.map Prod.fst := by
      rw [List.map_map]
      apply List.map_congr_left
      intro member _
      by_cases hsame : member.1 = key <;> simp [hsame]
    rwa [hkeys]
  · next hmissing =>
      rw [contains_iff] at hmissing
      rw [List.map_append, List.map_singleton, List.nodup_append_comm,
        List.singleton_append, List.nodup_cons]
      exact ⟨hmissing, hdistinct⟩

theorem lookup_eq_some_iff_mem {members : Object}
    (hdistinct : members.Distinct) {key : String} {value : Json} :
    members.lookup key = some value ↔ (key, value) ∈ members := by
  rw [List.lookup_eq_some_iff]
  constructor
  · rintro ⟨before, after, rfl, -⟩
    simp
  · intro hmem
    obtain ⟨before, after, rfl⟩ := List.append_of_mem hmem
    refine ⟨before, after, rfl, fun member hmember => ?_⟩
    rw [Distinct, List.map_append, List.map_cons, List.nodup_middle,
      List.nodup_cons, List.mem_append, not_or] at hdistinct
    rw [bne_iff_ne]
    intro hsame
    have hkey : member.1 ∈ before.map Prod.fst := List.mem_map_of_mem hmember
    exact hdistinct.1.1 (hsame ▸ hkey)

/-- The order of the members does not matter to a lookup. -/
theorem lookup_of_perm {members reordered : Object}
    (hdistinct : members.Distinct) (hperm : members.Perm reordered)
    (key : String) : members.lookup key = reordered.lookup key := by
  have hdistinct' : reordered.Distinct :=
    (hperm.map Prod.fst).nodup_iff.mp hdistinct
  ext value
  rw [lookup_eq_some_iff_mem hdistinct, lookup_eq_some_iff_mem hdistinct',
    hperm.mem_iff]

/-- Only the erased member goes. -/
theorem erase_perm {before after : Object} {key : String} (value : Json)
    (hfirst : key ∉ before.map Prod.fst) :
    (erase (before ++ (key, value) :: after) key).Perm (before ++ after) := by
  have hplace : (before ++ (key, value) :: after).findIdx?
      (fun member => member.1 = key) = some before.length := by
    rw [List.findIdx?_append]
    have hnone : before.findIdx? (fun member => member.1 = key) = none := by
      rw [List.findIdx?_eq_none_iff]
      intro member hmember
      rw [decide_eq_false_iff_not]
      intro hsame
      exact hfirst (hsame ▸ List.mem_map_of_mem hmember)
    simp [hnone, List.findIdx?_cons]
  cases List.eq_nil_or_concat after with
  | inl hnil =>
      subst hnil
      simp [erase, hplace]
  | inr hconcat =>
      obtain ⟨front, last, hconcat⟩ := hconcat
      rw [List.concat_eq_append] at hconcat
      subst hconcat
      have hlist : before ++ (key, value) :: (front ++ [last]) =
          (before ++ (key, value) :: front) ++ [last] := by
        simp
      have herased : erase (before ++ (key, value) :: (front ++ [last])) key =
          before ++ last :: front := by
        have hdrop : (last :: (front ++ [last])).dropLast = last :: front := by
          rw [← List.cons_append, List.dropLast_concat]
        rw [erase, hplace, hlist, List.getLast?_concat]
        simp [hdrop]
      rw [herased]
      exact List.Perm.append_left before
        (List.perm_append_singleton last front).symm

theorem exists_erase_perm {members : Object} (hdistinct : members.Distinct)
    {key : String} (hcontains : members.contains key = true) :
    ∃ before value after, members = before ++ (key, value) :: after ∧
      key ∉ (before ++ after).map Prod.fst ∧
      (members.erase key).Perm (before ++ after) := by
  obtain ⟨value, hlookup⟩ := Option.isSome_iff_exists.mp hcontains
  obtain ⟨before, after, rfl⟩ := List.append_of_mem
    ((lookup_eq_some_iff_mem hdistinct).mp hlookup)
  rw [Distinct, List.map_append, List.map_cons, List.nodup_middle,
    List.nodup_cons, ← List.map_append] at hdistinct
  refine ⟨before, value, after, rfl, hdistinct.1, erase_perm value ?_⟩
  intro hmem
  apply hdistinct.1
  rw [List.map_append]
  exact List.mem_append_left _ hmem

theorem Distinct.erase {members : Object} (hdistinct : members.Distinct)
    {key : String} (hcontains : members.contains key = true) :
    (members.erase key).Distinct := by
  obtain ⟨before, value, after, rfl, -, hperm⟩ :=
    exists_erase_perm hdistinct hcontains
  rw [Distinct, List.map_append, List.map_cons, List.nodup_middle,
    List.nodup_cons, ← List.map_append] at hdistinct
  exact (hperm.map Prod.fst).nodup_iff.mpr hdistinct.2

/-- An erasure leaves nothing under its key. -/
theorem lookup_erase {members : Object} (hdistinct : members.Distinct)
    {key : String} (hcontains : members.contains key = true)
    (other : String) :
    (members.erase key).lookup other =
      if other = key then none else members.lookup other := by
  have hdistinct' := hdistinct.erase hcontains
  obtain ⟨before, value, after, rfl, hgone, hperm⟩ :=
    exists_erase_perm hdistinct hcontains
  rw [lookup_of_perm hdistinct' hperm]
  split
  · next hsame =>
      rw [hsame]
      rwa [← contains_iff, contains, Option.not_isSome_iff_eq_none] at hgone
  · next hother =>
      have hfalse : (other == key) = false := by simpa using hother
      simp [List.lookup_append, List.lookup_cons, hfalse]

end Object

/-- Every object in the value has distinct keys; `json::parse` builds no
other. -/
inductive WellKeyed : Json → Prop
  | null : WellKeyed null
  | bool (value : Bool) : WellKeyed (bool value)
  | int64 (value : ℤ) : WellKeyed (int64 value)
  | uint64 (value : ℕ) : WellKeyed (uint64 value)
  | double (bits : BitVec 64) : WellKeyed (double bits)
  | string (value : String) : WellKeyed (string value)
  | array (values : List Json) (hvalues : ∀ value ∈ values, WellKeyed value) :
      WellKeyed (array values)
  | object (members : Object) (hdistinct : members.Distinct)
      (hmembers : ∀ member ∈ members, WellKeyed member.2) :
      WellKeyed (object members)

theorem WellKeyed.distinct {members : Object}
    (hvalue : WellKeyed (.object members)) : members.Distinct := by
  cases hvalue with
  | object _ hdistinct _ => exact hdistinct

theorem WellKeyed.member {members : Object} {key : String} {value : Json}
    (hvalue : WellKeyed (.object members))
    (hlookup : members.lookup key = some value) : WellKeyed value := by
  cases hvalue with
  | object _ hdistinct hmembers =>
      exact hmembers _
        ((Object.lookup_eq_some_iff_mem hdistinct).mp hlookup)

end Json

end MultiMarketPrices
