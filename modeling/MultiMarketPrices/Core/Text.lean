import Mathlib

/-!
# Text

The few string operations of the C++ standard library that the gateway uses,
on lists of characters: `std::views::split` into strings, the copy of a string
through its `c_str()`, the ASCII case maps, `find` against `npos`, and `atoi`.
-/

namespace MultiMarketPrices.Text

/-- `text | std::views::split(separator)`; an empty range has no parts. -/
def split (separator : Char) (text : String) : List String :=
  if text = "" then [] else (text.toList.splitOn separator).map String.ofList

/-- A string made from `text.c_str()` ends before the first NUL. -/
def cStr (text : String) : String :=
  String.ofList (text.toList.takeWhile (· ≠ '\x00'))

/-- `std::transform` with `::tolower`. -/
def lower (text : String) : String :=
  String.ofList (text.toList.map Char.toLower)

/-- `std::transform` with `::toupper`. -/
def upper (text : String) : String :=
  String.ofList (text.toList.map Char.toUpper)

/-- `text.find(part) != std::string::npos` -/
def hasPart (text part : String) : Bool :=
  decide (part.toList <:+: text.toList)

/-- `isspace` in the C locale. -/
def isSpace (character : Char) : Bool :=
  character = ' ' || (9 ≤ character.toNat && character.toNat ≤ 13)

def digitValue (digit : Char) : ℕ := digit.toNat - '0'.toNat

def digitsValue (text : List Char) : ℕ :=
  (text.takeWhile Char.isDigit).foldl
    (fun value digit => 10 * value + digitValue digit) 0

/-- `strtol`, which stops at the ends of a `long`. -/
def strtol (text : String) : ℤ :=
  let value : ℤ :=
    match text.toList.dropWhile isSpace with
    | '-' :: digits => -(digitsValue digits : ℤ)
    | '+' :: digits => digitsValue digits
    | digits => digitsValue digits
  max (-2 ^ 63) (min value (2 ^ 63 - 1))

/-- `atoi`, which keeps the low half of what `strtol` reads. -/
def atoi (text : String) : ℤ := (strtol text).bmod (2 ^ 32)

/-! ## Splitting -/

/-- No part of a split contains the separator. -/
theorem not_mem_of_mem_splitOn {separator : Char} {text part : List Char}
    (hpart : part ∈ text.splitOn separator) : separator ∉ part := by
  induction text generalizing part with
  | nil =>
      rw [List.splitOn_nil, List.mem_singleton] at hpart
      simp [hpart]
  | cons character rest ih =>
      rw [List.splitOn_cons_eq_if_modifyHead] at hpart
      split at hpart
      · cases List.mem_cons.mp hpart with
        | inl hfirst => simp [hfirst]
        | inr hrest => exact ih hrest
      · next hother =>
          obtain ⟨first, parts, hparts⟩ :=
            List.exists_cons_of_ne_nil (List.splitOn_ne_nil separator rest)
          rw [hparts] at ih hpart
          cases List.mem_cons.mp hpart with
          | inl hfirst =>
              have hne : separator ≠ character := by
                rintro rfl
                simp at hother
              rw [hfirst, List.mem_cons, not_or]
              exact ⟨hne, ih List.mem_cons_self⟩
          | inr hrest => exact ih (List.mem_cons_of_mem _ hrest)

/-- The parts of a text, two at least, are the texts without the separator that
it joins. -/
theorem split_eq_iff {separator : Char} {text first second : String}
    {rest : List String} :
    split separator text = first :: second :: rest ↔
      (∀ part ∈ first :: second :: rest, separator ∉ part.toList) ∧
        text.toList = [separator].intercalate
          ((first :: second :: rest).map String.toList) := by
  constructor
  · intro hsplit
    rw [split] at hsplit
    split at hsplit
    · exact absurd hsplit (by simp)
    · have hparts : text.toList.splitOn separator =
          (first :: second :: rest).map String.toList := by
        rw [← hsplit, List.map_map]
        simp [Function.comp_def]
      constructor
      · intro part hpart
        have hmem : part.toList ∈ text.toList.splitOn separator := by
          rw [hparts]
          exact List.mem_map_of_mem hpart
        exact not_mem_of_mem_splitOn hmem
      · rw [← hparts, List.intercalate_splitOn]
  · rintro ⟨hfree, hjoined⟩
    have hsome : text ≠ "" := by
      rintro rfl
      simp [List.intercalate] at hjoined
    rw [split, if_neg hsome, hjoined, List.splitOn_intercalate]
    · rw [List.map_map]
      simp [Function.comp_def]
    · simpa using hfree
    · simp

/-- A text with one separator has two parts. -/
theorem split_eq_pair {separator : Char} {text first second : String}
    (htext : text.toList = first.toList ++ separator :: second.toList)
    (hfirst : separator ∉ first.toList) (hsecond : separator ∉ second.toList) :
    split separator text = [first, second] := by
  apply split_eq_iff.mpr
  exact ⟨by simpa using ⟨hfirst, hsecond⟩,
    by simp [htext, List.intercalate]⟩

/-- The parts of a text with two separators. -/
theorem split_eq_triple_iff {separator : Char}
    {text first second third : String} :
    split separator text = [first, second, third] ↔
      (separator ∉ first.toList ∧ separator ∉ second.toList ∧
        separator ∉ third.toList) ∧
      text.toList = first.toList ++
        separator :: (second.toList ++ separator :: third.toList) := by
  rw [split_eq_iff]
  simp [List.intercalate]

/-- The first two parts of a text: the second one ends the text or runs up to
another separator. -/
theorem exists_split_eq_iff {separator : Char}
    {text first second : String} :
    (∃ rest, split separator text = first :: second :: rest) ↔
      (separator ∉ first.toList ∧ separator ∉ second.toList) ∧
        ∃ tail, text.toList =
            first.toList ++ separator :: (second.toList ++ tail) ∧
          (tail = [] ∨ ∃ more, tail = separator :: more) := by
  constructor
  · rintro ⟨rest, hsplit⟩
    obtain ⟨hfree, htext⟩ := split_eq_iff.mp hsplit
    refine ⟨⟨hfree first (by simp), hfree second (by simp)⟩, ?_⟩
    cases rest with
    | nil => exact ⟨[], by simpa [List.intercalate] using htext, .inl rfl⟩
    | cons third rest =>
        rw [List.map_cons, List.map_cons, List.map_cons,
          List.intercalate_cons_cons, List.intercalate_cons_cons] at htext
        exact ⟨separator :: [separator].intercalate
          (third.toList :: rest.map String.toList), by simpa using htext,
          .inr ⟨_, rfl⟩⟩
  · rintro ⟨⟨hfirst, hsecond⟩, tail, htext, htail⟩
    have hsome : text ≠ "" := by
      rintro rfl
      simp at htext
    rw [split, if_neg hsome, htext,
      List.splitOn_append_cons_self_of_not_mem hfirst]
    cases htail with
    | inl hend => simp [hend, List.splitOn_eq_singleton hsecond]
    | inr hmore =>
        obtain ⟨more, rfl⟩ := hmore
        rw [List.splitOn_append_cons_self_of_not_mem hsecond]
        simp

/-- A text with a separator has at least two parts. -/
theorem split_of_mem {separator : Char} {text : String}
    (hmem : separator ∈ text.toList) :
    ∃ first second rest, split separator text = first :: second :: rest := by
  have hsome : text ≠ "" := by
    rintro rfl
    simp at hmem
  obtain ⟨before, after, htext⟩ := List.append_of_mem hmem
  obtain ⟨first, firsts, hfirst⟩ :=
    List.exists_cons_of_ne_nil (List.splitOn_ne_nil separator before)
  obtain ⟨second, rest, hsecond⟩ :=
    List.exists_cons_of_ne_nil (List.splitOn_ne_nil separator after)
  rw [split, if_neg hsome, htext, List.splitOn_append_cons_self, hfirst,
    hsecond]
  cases firsts with
  | nil => exact ⟨_, _, _, rfl⟩
  | cons => exact ⟨_, _, _, rfl⟩

theorem mem_of_split {separator : Char} {text first second : String}
    {rest : List String}
    (hsplit : split separator text = first :: second :: rest) :
    separator ∈ text.toList := by
  obtain ⟨-, tail, htext, -⟩ := exists_split_eq_iff.mp ⟨rest, hsplit⟩
  simp [htext]

/-- One separator joins two texts without it in one way only. -/
theorem pair_inj {separator : Char} {first second first' second' : List Char}
    (hfirst : separator ∉ first) (hfirst' : separator ∉ first')
    (heq : first ++ separator :: second = first' ++ separator :: second') :
    first = first' ∧ second = second' := by
  induction first generalizing first' with
  | nil =>
      cases first' with
      | nil => simpa using heq
      | cons character rest =>
          have hsame : separator = character := (List.cons.inj heq).1
          simp [hsame] at hfirst'
  | cons character rest ih =>
      cases first' with
      | nil =>
          have hsame : character = separator := (List.cons.inj heq).1
          simp [hsame] at hfirst
      | cons character' rest' =>
          rw [List.cons_append, List.cons_append, List.cons.injEq] at heq
          simp only [List.mem_cons, not_or] at hfirst hfirst'
          have hrest := ih hfirst.2 hfirst'.2 heq.2
          exact ⟨by rw [heq.1, hrest.1], hrest.2⟩

/-! ## The end of a C string -/

theorem nul_not_mem_cStr (text : String) : '\x00' ∉ (cStr text).toList := by
  intro hmem
  rw [cStr, String.toList_ofList] at hmem
  simpa using List.mem_takeWhile_imp hmem

theorem mem_of_mem_cStr {text : String} {character : Char}
    (hmem : character ∈ (cStr text).toList) : character ∈ text.toList := by
  rw [cStr, String.toList_ofList] at hmem
  exact (List.takeWhile_prefix _).subset hmem

theorem cStr_eq_self {text : String} (htext : '\x00' ∉ text.toList) :
    cStr text = text := by
  rw [cStr, List.takeWhile_eq_self_iff.mpr, String.ofList_toList]
  intro character hcharacter
  have hne : character ≠ '\x00' := by
    rintro rfl
    exact htext hcharacter
  simpa using hne

/-! ## Case -/

/-- What is no lower-case letter is the lower case of itself at most. -/
theorem eq_of_toLower_eq {character other : Char}
    (hother : other.isLower = false) (heq : character.toLower = other) :
    character = other := by
  by_cases hupper : character.isUpper
  · have hlower : character.toLower.isLower = true := by
      simp [Char.isAlpha, hupper]
    rw [heq, hother] at hlower
    exact absurd hlower (by simp)
  · rw [← heq, Char.toLower_eq_of_not_isUpper hupper]

@[simp]
theorem upper_lower (text : String) : upper (lower text) = upper text := by
  simp [upper, lower, Function.comp_def]

theorem upper_eq_self_iff {text : String} :
    upper text = text ↔
      ∀ character ∈ text.toList, character.toUpper = character := by
  rw [← String.toList_inj, upper, String.toList_ofList]
  conv_lhs => rw [← List.map_id text.toList, List.map_map]
  exact List.map_inj_left

/-- On texts without lower-case letters the lower case tells all. -/
theorem lower_injective_on_upper {first second : String}
    (hfirst : upper first = first) (hsecond : upper second = second)
    (heq : lower first = lower second) : first = second := by
  calc
    first = upper first := hfirst.symm
    _ = upper (lower first) := (upper_lower first).symm
    _ = upper (lower second) := by rw [heq]
    _ = upper second := upper_lower second
    _ = second := hsecond

/-- The case map only adds lower-case letters. -/
theorem not_mem_lower {text : String} {character : Char}
    (hcharacter : character.isLower = false)
    (htext : character ∉ text.toList) : character ∉ (lower text).toList := by
  intro hmem
  rw [lower, String.toList_ofList, List.mem_map] at hmem
  obtain ⟨original, hmem, heq⟩ := hmem
  exact htext (eq_of_toLower_eq hcharacter heq ▸ hmem)

end MultiMarketPrices.Text
