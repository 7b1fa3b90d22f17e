import MultiMarketPrices.Core.Json

/-!
# The texts of flat objects

What the components write to each other are objects whose members are strings.
`Codec` is a pair of `json::serialize` and `json::parse` that agree on them;
`Codec.flat` writes and reads such objects and no others.
-/

namespace MultiMarketPrices

namespace Json

/-- An object whose members are strings. -/
def flat (members : List (String × String)) : Json :=
  .object (members.map fun member => (member.1, .string member.2))

theorem flat_injective : Function.Injective flat := by
  intro left right heq
  apply List.map_injective_iff.mpr _ (Json.object.inj heq)
  rintro ⟨key, value⟩ ⟨other, text⟩ hsame
  simpa using hsame

end Json

/-- `json::serialize` and `json::parse`. -/
structure Codec where
  serialize : Json → String
  parse : String → Except Thrown Json
  reads (members : List (String × String)) :
    (members.map Prod.fst).Nodup →
      parse (serialize (Json.flat members)) = .ok (Json.flat members)

/-- Different flat objects have different texts. -/
theorem Codec.serialize_injective (codec : Codec)
    {left right : List (String × String)} (hleft : (left.map Prod.fst).Nodup)
    (hright : (right.map Prod.fst).Nodup)
    (heq : codec.serialize (Json.flat left) =
      codec.serialize (Json.flat right)) : left = right := by
  apply Json.flat_injective
  have hread := codec.reads left hleft
  rw [heq, codec.reads right hright] at hread
  exact (Except.ok.inj hread).symm

namespace FlatText

/-! ## Strings -/

/-- A text with its closing quote, the quotes and backslashes in it escaped. -/
def quoted : List Char → List Char
  | [] => ['"']
  | character :: text =>
      if character = '"' ∨ character = '\\' then
        '\\' :: character :: quoted text
      else character :: quoted text

/-- The text up to the closing quote, and what follows it. -/
def unquoted : List Char → Option (List Char × List Char)
  | [] => none
  | '"' :: rest => some ([], rest)
  | ['\\'] => none
  | '\\' :: character :: rest =>
      (unquoted rest).map fun read => (character :: read.1, read.2)
  | character :: rest =>
      (unquoted rest).map fun read => (character :: read.1, read.2)

theorem unquoted_quoted (text rest : List Char) :
    unquoted (quoted text ++ rest) = some (text, rest) := by
  induction text with
  | nil => rfl
  | cons character text ih =>
      by_cases hescaped : character = '"' ∨ character = '\\'
      · rw [quoted, if_pos hescaped, List.cons_append, List.cons_append,
          unquoted, ih]
        rfl
      · obtain ⟨hquote, hslash⟩ := not_or.mp hescaped
        rw [quoted, if_neg hescaped, List.cons_append, unquoted, ih]
        · rfl
        · exact hquote
        · exact fun heq _ => hslash heq
        · exact fun _ _ heq _ => hslash heq

/-! ## Members -/

/-- The members after the opening brace, each before a comma or the closing
brace. -/
def written : List (List Char × List Char) → List Char
  | [] => []
  | (key, value) :: members =>
      '"' :: (quoted key ++ ':' :: '"' :: (quoted value ++
        (if members = [] then '\x7d' else ',') :: written members))

/-- What `written` wrote, read in at most so many members. -/
def readMembers : ℕ → List Char → Option (List (List Char × List Char))
  | _, [] => some []
  | 0, _ => none
  | count + 1, '"' :: text =>
      match unquoted text with
      | some (key, ':' :: '"' :: text) =>
          match unquoted text with
          | some (value, separator :: rest) =>
              if separator = ',' ∨ separator = '\x7d' then
                (readMembers count rest).map ((key, value) :: ·)
              else none
          | _ => none
      | _ => none
  | _, _ => none

theorem readMembers_written (members : List (List Char × List Char))
    {count : ℕ} (hcount : members.length ≤ count) :
    readMembers count (written members) = some members := by
  induction members generalizing count with
  | nil => cases count <;> rfl
  | cons member members ih =>
      obtain ⟨key, value⟩ := member
      obtain ⟨less, rfl⟩ : ∃ less, count = less + 1 :=
        ⟨count - 1, by simp at hcount; omega⟩
      rw [written, readMembers, unquoted_quoted]
      simp only
      rw [unquoted_quoted]
      have hrest := ih (Nat.le_of_succ_le_succ hcount)
      by_cases hlast : members = []
      · simp [hlast] at hrest ⊢
        simp [hrest]
      · simp [hlast, hrest]

theorem length_le_written (members : List (List Char × List Char)) :
    members.length ≤ (written members).length := by
  induction members with
  | nil => rfl
  | cons member members ih =>
      simp only [written, List.length_cons, List.length_append]
      omega

/-! ## Objects -/

/-- The object's members, if they are all strings. -/
def stringMembers : Json → Option (List (List Char × List Char))
  | .object members => members.mapM fun
      | (key, .string value) => some (key.toList, value.toList)
      | _ => none
  | _ => none

def serialize (value : Json) : String :=
  match stringMembers value with
  | none => "null"
  | some [] => "\x7b\x7d"
  | some members => String.ofList ('\x7b' :: written members)

def parse (text : String) : Except Thrown Json :=
  match text.toList with
  | ['\x7b', '\x7d'] => .ok (Json.flat [])
  | '\x7b' :: rest =>
      match readMembers rest.length rest with
      | some members => .ok (Json.flat (members.map fun member =>
          (String.ofList member.1, String.ofList member.2)))
      | none => .error .parse
  | _ => .error .parse

theorem stringMembers_flat (members : List (String × String)) :
    stringMembers (Json.flat members) =
      some (members.map fun member =>
        (member.1.toList, member.2.toList)) := by
  rw [Json.flat, stringMembers]
  induction members with
  | nil => rfl
  | cons member members ih =>
      rw [List.map_cons, List.mapM_cons, ih]
      rfl

theorem parse_serialize (members : List (String × String)) :
    parse (serialize (Json.flat members)) = .ok (Json.flat members) := by
  rw [serialize, stringMembers_flat]
  cases members with
  | nil => rfl
  | cons member members =>
      have hread := readMembers_written
        ((member :: members).map fun member =>
          (member.1.toList, member.2.toList)) (length_le_written _)
      simp only [List.map_cons] at hread ⊢
      simp only [parse, String.toList_ofList]
      split
      · next heq => simp [written] at heq
      · next rest hrest heq =>
          obtain rfl := (List.cons.inj heq).2
          rw [hread]
          simp [Json.flat, Function.comp_def]
      · next hother => exact absurd rfl (hother _)

end FlatText

/-- The codec of flat objects. -/
def Codec.flat : Codec where
  serialize := FlatText.serialize
  parse := FlatText.parse
  reads members _ := FlatText.parse_serialize members

example : Codec.flat.parse "\x7b\"group\":\"a:b:0\",\"key\":\"\\\"\"\x7d" =
    .ok (Json.flat [("group", "a:b:0"), ("key", "\"")]) := by
  rfl

end MultiMarketPrices
