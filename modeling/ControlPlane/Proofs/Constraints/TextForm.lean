import ControlPlane.Constraints.Reader
import ControlPlane.Constraints.Writer
import ControlPlane.Proofs.Constraints.Sizes
import ControlPlane.Proofs.Text.Splitting
import Mathlib.Data.List.ReduceOption

/-!
# The text form of constraints

The words of a text are read one after the other, and each sets the field of
its key.  So the words that are written for constraints set their fields again,
key by key.  The constraints that are read from any text have values that can
be written: a value is a part of a word, so no blank is in it, and every size
is a number that binary64 represents exactly.
-/

namespace ControlPlane.Constraints

open Number

/-- The constraints that have a text form: neither the architecture nor a tag is empty or has a
blank in it, no tag has a comma in it, and the sizes are represented exactly. -/
structure IsWritable (constraints : Constraints) : Prop where
  arch : ∀ arch, constraints.arch = some arch →
    arch ≠ "" ∧ ∀ c ∈ arch.toList, Text.isBlank c = false
  tags : ∀ tags, constraints.tags = some tags → ∀ tag ∈ tags,
    tag ≠ "" ∧ ∀ c ∈ tag.toList, c ≠ ',' ∧ Text.isBlank c = false
  mem : ∀ mem, constraints.mem = some mem → IsExact mem.toNat
  rootDisk : ∀ rootDisk, constraints.rootDisk = some rootDisk → IsExact rootDisk.toNat

variable {constraints read asked : Constraints} {key : Key} {word value : List Char}

/-! ## One word -/

/-- The word that sets the field of a key to the value with the given text. -/
def Key.assign (key : Key) (value : List Char) : List Char :=
  key.word.toList ++ '=' :: value

theorem Key.equals_notMem_word (key : Key) : '=' ∉ key.word.toList := by
  cases key <;> decide

theorem isBlank_of_all {text : List Char} (h : text.all (!Text.isBlank ·) = true) :
    ∀ c ∈ text, Text.isBlank c = false := by
  simpa using h

theorem Key.isBlank_word (key : Key) : ∀ c ∈ key.word.toList, Text.isBlank c = false := by
  apply isBlank_of_all
  cases key <;> decide

/-- A word sets a field that is not set yet. -/
theorem addWord_assign (hunset : read.isSet key = false)
    (hvalue : readValue key value = .ok asked) :
    addWord read (key.assign value) = .ok (asked.withFallbacks read) := by
  have hkey : Keyword.ofWord? key.word = some key := Keyword.ofWord?_word key
  simp [addWord, Key.assign, Text.cutFirst_append key.equals_notMem_word, hkey, hunset, hvalue]

/-- A word that is read sets one field to a value that is read from its text. -/
theorem addWord_eq_ok {later : Constraints} (h : addWord read word = .ok later) :
    ∃ key value asked, word = Key.assign key value ∧ read.isSet key = false ∧
      readValue key value = .ok asked ∧ later = asked.withFallbacks read := by
  simp only [addWord] at h
  -- The reader cuts the word, finds the key, and looks for it before and after it reads the value.
  split at h
  · cases h
  · next name value hcut =>
    split at h
    · cases h
    · next key hkey =>
      have hname : key.word = String.ofList name := Keyword.word_of_ofWord? hkey
      split at h
      · cases h
      · split at h
        · cases h
        · next asked hvalue =>
          split at h
          · cases h
          · next hunset =>
            refine ⟨key, value, asked, ?_, Bool.eq_false_iff.mpr hunset, hvalue,
              (Except.ok.inj h).symm⟩
            rw [Key.assign, hname, String.toList_ofList]
            exact Text.eq_of_cutFirst hcut

/-! ## What is read can be written -/

theorem isWritable_empty : IsWritable empty where
  arch := nofun
  tags := nofun
  mem := nofun
  rootDisk := nofun

/-- What holds of either value holds of the one that is taken. -/
theorem forall_orElse {α : Type} {first second : Option α} {holds : α → Prop}
    (hfirst : ∀ a, first = some a → holds a) (hsecond : ∀ a, second = some a → holds a) :
    ∀ a, (first <|> second) = some a → holds a := by
  intro a ha
  cases first with
  | none => exact hsecond a ha
  | some b => exact hfirst a ha

theorem IsWritable.withFallbacks (hasked : asked.IsWritable) (hread : read.IsWritable) :
    (asked.withFallbacks read).IsWritable where
  arch := forall_orElse hasked.arch hread.arch
  tags := forall_orElse hasked.tags hread.tags
  mem := forall_orElse hasked.mem hread.mem
  rootDisk := forall_orElse hasked.rootDisk hread.rootDisk

theorem mem_readTags {tag : String} (h : tag ∈ readTags value) :
    tag ≠ "" ∧ ∀ c ∈ tag.toList, c ∈ value ∧ c ≠ ',' := by
  obtain ⟨part, hpart, rfl⟩ := List.mem_map.mp h
  obtain ⟨hne, hchars⟩ := Text.mem_fieldsOn hpart
  constructor
  · simpa using hne
  · intro c hc
    rw [String.toList_ofList] at hc
    obtain ⟨hmem, hcomma⟩ := hchars c hc
    exact ⟨hmem, beq_eq_false_iff_ne.mp hcomma⟩

/-- A size that is read is exact as a number of 64 bits, too. -/
theorem isExact_toNat_ofNat {n : Nat} (h : Size.parse value = .ok n) :
    IsExact (UInt64.ofNat n).toNat := by
  rw [UInt64.toNat_ofNat_of_lt' (Size.parse_lt h)]
  exact Size.isExact_of_parse h

theorem exists_of_map_mapError {α β ε δ : Type} {result : Except ε α} {blame : ε → δ}
    {make : α → β} {b : β} (h : (result.mapError blame).map make = .ok b) :
    ∃ a, result = .ok a ∧ make a = b := by
  cases result with
  | error cause => cases h
  | ok a => exact ⟨a, rfl, Except.ok.inj h⟩

/-- What is read from a text without blanks can be written. -/
theorem isWritable_of_readValue (hblank : ∀ c ∈ value, Text.isBlank c = false)
    (h : readValue key value = .ok asked) : asked.IsWritable := by
  cases key with
  | arch =>
    simp only [readValue] at h
    split at h
    · cases h
    · next hne =>
      obtain rfl := Except.ok.inj h
      refine ⟨?_, nofun, nofun, nofun⟩
      rintro _ ⟨⟩
      rw [String.toList_ofList]
      exact ⟨by simpa using hne, hblank⟩
  | container =>
    simp only [readValue] at h
    split at h
    · obtain rfl := Except.ok.inj h
      exact ⟨nofun, nofun, nofun, nofun⟩
    · cases h
  | cpuCores =>
    obtain ⟨n, -, rfl⟩ := exists_of_map_mapError h
    exact ⟨nofun, nofun, nofun, nofun⟩
  | cpuPower =>
    obtain ⟨n, -, rfl⟩ := exists_of_map_mapError h
    exact ⟨nofun, nofun, nofun, nofun⟩
  | mem =>
    obtain ⟨n, hsize, rfl⟩ := exists_of_map_mapError h
    refine ⟨nofun, nofun, ?_, nofun⟩
    rintro _ ⟨⟩
    exact isExact_toNat_ofNat hsize
  | rootDisk =>
    obtain ⟨n, hsize, rfl⟩ := exists_of_map_mapError h
    refine ⟨nofun, nofun, nofun, ?_⟩
    rintro _ ⟨⟩
    exact isExact_toNat_ofNat hsize
  | tags =>
    obtain rfl := Except.ok.inj h
    refine ⟨nofun, ?_, nofun, nofun⟩
    rintro _ ⟨⟩ tag htag
    obtain ⟨hne, hchars⟩ := mem_readTags htag
    refine ⟨hne, fun c hc => ?_⟩
    exact ⟨(hchars c hc).2, hblank c (hchars c hc).1⟩

/-- Reading one more word keeps the constraints writable. -/
theorem IsWritable.addWord {later : Constraints} (hread : read.IsWritable)
    (hblank : ∀ c ∈ word, Text.isBlank c = false) (h : addWord read word = .ok later) :
    later.IsWritable := by
  obtain ⟨key, value, asked, rfl, -, hvalue, rfl⟩ := addWord_eq_ok h
  have hasked : asked.IsWritable := by
    apply isWritable_of_readValue _ hvalue
    intro c hc
    exact hblank c (List.mem_append_right _ (List.mem_cons_of_mem _ hc))
  exact hasked.withFallbacks hread

theorem IsWritable.foldlM_addWord {words : List (List Char)} (hread : read.IsWritable)
    (hblank : ∀ word ∈ words, ∀ c ∈ word, Text.isBlank c = false)
    (h : words.foldlM Constraints.addWord read = .ok constraints) : constraints.IsWritable := by
  induction words generalizing read with
  | nil => exact Except.ok.inj h ▸ hread
  | cons word rest ih =>
    rw [List.forall_mem_cons] at hblank
    rw [List.foldlM_cons] at h
    cases hword : Constraints.addWord read word with
    | error cause =>
      rw [hword] at h
      cases h
    | ok later =>
      rw [hword] at h
      exact ih (hread.addWord hblank.1 hword) hblank.2 h

/-- The constraints that are read from a text can be written. -/
theorem isWritable_of_parse {text : String} (h : parse text = .ok constraints) :
    constraints.IsWritable := by
  apply isWritable_empty.foldlM_addWord _ h
  intro word hword c hc
  exact ((Text.mem_fieldsOn hword).2 c hc).2

/-! ## What is written is read -/

/-- The constraints on the fields of some keys. -/
def restrict (constraints : Constraints) (keys : List Key) : Constraints where
  arch := if .arch ∈ keys then constraints.arch else none
  container := if .container ∈ keys then constraints.container else none
  cpuCores := if .cpuCores ∈ keys then constraints.cpuCores else none
  cpuPower := if .cpuPower ∈ keys then constraints.cpuPower else none
  mem := if .mem ∈ keys then constraints.mem else none
  rootDisk := if .rootDisk ∈ keys then constraints.rootDisk else none
  tags := if .tags ∈ keys then constraints.tags else none

/-- What the field of a key is written as if it is set. -/
def valueText? (constraints : Constraints) : Key → Option (List Char)
  | .arch => constraints.arch.map String.toList
  | .container => constraints.container.map fun kind => kind.word.toList
  | .cpuCores => constraints.cpuCores.map fun n => Nat.toDigits 10 n.toNat
  | .cpuPower => constraints.cpuPower.map fun n => Nat.toDigits 10 n.toNat
  | .mem => constraints.mem.map fun n => Nat.toDigits 10 n.toNat ++ ['M']
  | .rootDisk => constraints.rootDisk.map fun n => Nat.toDigits 10 n.toNat ++ ['M']
  | .tags => constraints.tags.map fun tags => List.intercalate [','] (tags.map String.toList)

/-- The words that are written for the fields of some keys. -/
def assignments (constraints : Constraints) (keys : List Key) : List (List Char) :=
  keys.filterMap fun key => (constraints.valueText? key).map key.assign

theorem words_map_toList (constraints : Constraints) :
    constraints.words.map String.toList = constraints.assignments Keyword.all := by
  have hassign : constraints.assignments Keyword.all =
      (Keyword.all.map fun key => (constraints.valueText? key).map key.assign).reduceOption := by
    rw [assignments, List.reduceOption, List.filterMap_map]
    rfl
  rw [words, ← List.reduceOption_map, hassign]
  congr 1
  simp [Keyword.all, valueText?, Key.assign, Key.word, Function.comp_def]

@[simp] theorem restrict_nil (constraints : Constraints) : constraints.restrict [] = empty := by
  simp [restrict, empty]

theorem restrict_all (constraints : Constraints) {keys : List Key} (h : ∀ key, key ∈ keys) :
    constraints.restrict keys = constraints := by
  simp [restrict, h]

theorem ite_orElse {α : Type} (p q : Prop) [Decidable p] [Decidable q] (a : Option α) :
    ((if p then a else none) <|> (if q then a else none)) = if p ∨ q then a else none := by
  by_cases hp : p
  · by_cases hq : q
    · cases a <;> simp [hp, hq]
    · cases a <;> simp [hp, hq]
  · simp [hp]

theorem restrict_cons (constraints : Constraints) (key : Key) (keys : List Key) :
    (constraints.restrict [key]).withFallbacks (constraints.restrict keys) =
      constraints.restrict (key :: keys) := by
  simp only [withFallbacks, restrict, ite_orElse, List.mem_cons, List.not_mem_nil, or_false]

theorem restrict_of_unset (h : constraints.valueText? key = none) :
    constraints.restrict [key] = empty := by
  cases key with
  | _ =>
    simp only [valueText?, Option.map_eq_none_iff] at h
    simp [restrict, empty, h]

theorem isSet_restrict {keys : List Key} (h : key ∉ keys) :
    (constraints.restrict keys).isSet key = false := by
  cases key with
  | _ => simp [isSet, restrict, h]

/-- Tags that have no commas in them come apart at the commas between them. -/
theorem IsWritable.readTags_intercalate (h : constraints.IsWritable) {tags : List String}
    (htags : constraints.tags = some tags) :
    readTags (List.intercalate [','] (tags.map String.toList)) = tags := by
  have hparts : Text.fieldsOn (· == ',') (List.intercalate [','] (tags.map String.toList)) =
      tags.map String.toList := by
    apply Text.fieldsOn_intercalate
    · rfl
    · intro part hpart
      obtain ⟨tag, htag, rfl⟩ := List.mem_map.mp hpart
      obtain ⟨hne, hchars⟩ := h.tags tags htags tag htag
      constructor
      · simpa using hne
      · intro c hc
        exact beq_eq_false_iff_ne.mpr (hchars c hc).1
  simp [readTags, hparts, Function.comp_def]

/-- The value of a field is read from what it is written as. -/
theorem IsWritable.readValue_eq (h : constraints.IsWritable)
    (hvalue : constraints.valueText? key = some value) :
    readValue key value = .ok (constraints.restrict [key]) := by
  cases key with
  | arch =>
    obtain ⟨arch, harch, rfl⟩ := Option.map_eq_some_iff.mp hvalue
    simp [readValue, restrict, empty, harch, (h.arch arch harch).1]
  | container =>
    obtain ⟨kind, hkind, rfl⟩ := Option.map_eq_some_iff.mp hvalue
    have hword : Keyword.ofWord? kind.word = some kind := Keyword.ofWord?_word kind
    simp [readValue, restrict, empty, hkind, hword]
  | cpuCores =>
    obtain ⟨n, hn, rfl⟩ := Option.map_eq_some_iff.mp hvalue
    simp [readValue, restrict, empty, hn, parseWord_toDigits, Except.map, Except.mapError]
  | cpuPower =>
    obtain ⟨n, hn, rfl⟩ := Option.map_eq_some_iff.mp hvalue
    simp [readValue, restrict, empty, hn, parseWord_toDigits, Except.map, Except.mapError]
  | mem =>
    obtain ⟨n, hn, rfl⟩ := Option.map_eq_some_iff.mp hvalue
    have hsize := Size.parse_toDigits (h.mem n hn) n.toNat_lt_size
    simp [readValue, restrict, empty, hn, hsize, Except.map, Except.mapError]
  | rootDisk =>
    obtain ⟨n, hn, rfl⟩ := Option.map_eq_some_iff.mp hvalue
    have hsize := Size.parse_toDigits (h.rootDisk n hn) n.toNat_lt_size
    simp [readValue, restrict, empty, hn, hsize, Except.map, Except.mapError]
  | tags =>
    obtain ⟨tags, htags, rfl⟩ := Option.map_eq_some_iff.mp hvalue
    simp [readValue, restrict, empty, htags, h.readTags_intercalate htags]

/-- The words for some keys set the fields of these keys. -/
theorem IsWritable.foldlM_assignments (h : constraints.IsWritable) {keys done : List Key}
    (hnodup : keys.Nodup) (hdone : ∀ key ∈ keys, key ∉ done) :
    (constraints.assignments keys).foldlM Constraints.addWord (constraints.restrict done) =
      .ok (constraints.restrict (keys.reverse ++ done)) := by
  -- What has been read are the fields of the keys that are done; a key that is not among them is
  -- not set yet, so its word is read, and a field that is unset has no word.
  induction keys generalizing done with
  | nil => rfl
  | cons key rest ih =>
    rw [List.nodup_cons] at hnodup
    rw [List.forall_mem_cons] at hdone
    have hrest : ∀ other ∈ rest, other ∉ key :: done := by
      intro other hother hmem
      rcases List.mem_cons.mp hmem with rfl | hmem
      · exact hnodup.1 hother
      · exact hdone.2 other hother hmem
    have ih := ih hnodup.2 hrest
    rw [← restrict_cons] at ih
    rw [List.reverse_cons, List.append_assoc, List.singleton_append]
    cases hvalue : constraints.valueText? key with
    | none =>
      rw [restrict_of_unset hvalue, empty_withFallbacks] at ih
      simpa [assignments, hvalue] using ih
    | some value =>
      have hunset : (constraints.restrict done).isSet key = false := isSet_restrict hdone.1
      have hword := addWord_assign hunset (h.readValue_eq hvalue)
      simp only [assignments, List.filterMap_cons, hvalue, Option.map_some, List.foldlM_cons, hword]
      exact ih

theorem isBlank_of_isDigit {c : Char} (h : c.isDigit = true) : Text.isBlank c = false := by
  have hbounds := toNat_of_isDigit h
  rw [Bool.eq_false_iff]
  intro hblank
  simp only [Text.isBlank, Bool.or_eq_true, Bool.and_eq_true, decide_eq_true_eq, beq_iff_eq]
    at hblank
  omega

/-- No blank is written in a value. -/
theorem IsWritable.isBlank_valueText (h : constraints.IsWritable)
    (hvalue : constraints.valueText? key = some value) :
    ∀ c ∈ value, Text.isBlank c = false := by
  have hdigits : ∀ n, ∀ c ∈ Nat.toDigits 10 n, Text.isBlank c = false :=
    fun n c hc => isBlank_of_isDigit (isDigit_toDigits n c hc)
  have hsize : ∀ n, ∀ c ∈ Nat.toDigits 10 n ++ ['M'], Text.isBlank c = false := by
    intro n c hc
    rcases List.mem_append.mp hc with hc | hc
    · exact hdigits n c hc
    · obtain rfl := List.mem_singleton.mp hc
      rfl
  cases key with
  | arch =>
    obtain ⟨arch, harch, rfl⟩ := Option.map_eq_some_iff.mp hvalue
    exact (h.arch arch harch).2
  | container =>
    obtain ⟨kind, -, rfl⟩ := Option.map_eq_some_iff.mp hvalue
    apply isBlank_of_all
    cases kind <;> decide
  | cpuCores =>
    obtain ⟨n, -, rfl⟩ := Option.map_eq_some_iff.mp hvalue
    exact hdigits _
  | cpuPower =>
    obtain ⟨n, -, rfl⟩ := Option.map_eq_some_iff.mp hvalue
    exact hdigits _
  | mem =>
    obtain ⟨n, -, rfl⟩ := Option.map_eq_some_iff.mp hvalue
    exact hsize _
  | rootDisk =>
    obtain ⟨n, -, rfl⟩ := Option.map_eq_some_iff.mp hvalue
    exact hsize _
  | tags =>
    obtain ⟨tags, htags, rfl⟩ := Option.map_eq_some_iff.mp hvalue
    intro c hc
    rcases Text.mem_intercalate hc with rfl | ⟨part, hpart, hc⟩
    · rfl
    · obtain ⟨tag, htag, rfl⟩ := List.mem_map.mp hpart
      exact ((h.tags tags htags tag htag).2 c hc).2

/-- The text comes apart into the words that are written. -/
theorem IsWritable.words_render (h : constraints.IsWritable) :
    Text.words constraints.render.toList = constraints.assignments Keyword.all := by
  rw [render, String.toList_intercalate, words_map_toList]
  apply Text.fieldsOn_intercalate rfl
  intro word hword
  obtain ⟨key, -, hassign⟩ := List.mem_filterMap.mp hword
  obtain ⟨value, hvalue, rfl⟩ := Option.map_eq_some_iff.mp hassign
  constructor
  · simp [Key.assign]
  · intro c hc
    rcases List.mem_append.mp hc with hc | hc
    · exact key.isBlank_word c hc
    · rcases List.mem_cons.mp hc with rfl | hc
      · rfl
      · exact h.isBlank_valueText hvalue c hc

/-- Constraints that can be written are read from their text. -/
theorem IsWritable.parse_render (h : constraints.IsWritable) :
    parse constraints.render = .ok constraints := by
  have hnodup : (Keyword.all : List Key).Nodup := by decide
  have hall : ∀ key : Key, key ∈ Keyword.all.reverse ++ [] := by
    intro key
    simp [Keyword.mem_all]
  have hfold : (constraints.assignments Keyword.all).foldlM Constraints.addWord
      (constraints.restrict []) = _ :=
    h.foldlM_assignments hnodup (fun _ _ => List.not_mem_nil)
  rw [restrict_nil, restrict_all constraints hall] at hfold
  rw [parse, h.words_render, hfold]

/-- The texts of constraints: those that can be written are read from their text, and what is read
from any text can be written.  So these are just the constraints that some text is read as, and
reading a text, writing what was read and reading it again makes no difference. -/
theorem text_round_trip :
    (∀ constraints : Constraints, constraints.IsWritable →
      parse constraints.render = .ok constraints) ∧
    (∀ text constraints, parse text = .ok constraints → constraints.IsWritable) ∧
    (∀ constraints : Constraints,
      constraints.IsWritable ↔ ∃ text, parse text = .ok constraints) ∧
    ∀ text constraints, parse text = .ok constraints →
      parse constraints.render = parse text := by
  refine ⟨fun _ h => h.parse_render, fun _ _ h => isWritable_of_parse h, ?_, ?_⟩
  · intro constraints
    constructor
    · intro h
      exact ⟨_, h.parse_render⟩
    · rintro ⟨text, htext⟩
      exact isWritable_of_parse htext
  · intro text constraints htext
    rw [htext]
    exact (isWritable_of_parse htext).parse_render

/-- Constraints with a size beyond the range in which every number is exact, and with no tags. -/
theorem text_round_trip_large :
    parse "arch=amd64 mem=9007199254740994M tags=" =
      .ok { arch := some "amd64", mem := some 9007199254740994, tags := some [] } := by
  have htext : "arch=amd64 mem=9007199254740994M tags=" = render
      { arch := some "amd64", mem := some 9007199254740994, tags := some [] } := by
    decide
  rw [htext]
  refine text_round_trip.1 _ ⟨?_, ?_, ?_, nofun⟩
  · rintro _ ⟨⟩
    exact ⟨by decide, isBlank_of_all (by decide)⟩
  · rintro _ ⟨⟩
    exact nofun
  · rintro _ ⟨⟩
    exact ⟨4503599627370497, 1, by decide, by decide⟩

end ControlPlane.Constraints
