import ControlPlane.Proofs.Constraints.TextForm
import Mathlib.Data.List.Perm.Basic

/-!
# Texts of constraints one after the other

Each word of a text sets one field, and is refused where the field is set
already.  So two words that are both accepted may change places, and a text
that stands behind another one is read as it is read alone, up to the first
word whose field the text before it has set.
-/

namespace ControlPlane.Constraints

variable {read middle later asked above below : Constraints} {key : Key}
  {word : List Char} {words words' : List (List Char)}

/-! ## Fields that are set -/

/-- No field is set in both. -/
def Disjoint (above below : Constraints) : Prop :=
  ∀ key, above.isSet key = true → below.isSet key = false

theorem isSet_withFallbacks (above below : Constraints) (key : Key) :
    (above.withFallbacks below).isSet key = (above.isSet key || below.isSet key) := by
  cases key with
  | _ => simp [isSet, withFallbacks]

@[simp] theorem isSet_empty (key : Key) : empty.isSet key = false := by
  cases key <;> rfl

theorem disjoint_empty (above : Constraints) : above.Disjoint empty :=
  fun key _ => isSet_empty key

theorem orElse_left_comm {α : Type} {first second : Option α} (last : Option α)
    (h : first.isSome = true → second.isSome = false) :
    (first <|> second <|> last) = (second <|> first <|> last) := by
  cases first with
  | none => rfl
  | some a =>
    obtain rfl := Option.not_isSome_iff_eq_none.mp (Bool.eq_false_iff.mp (h rfl))
    rfl

/-- Layers that set different fields may change places. -/
theorem Disjoint.withFallbacks_left_comm (h : above.Disjoint below) (last : Constraints) :
    above.withFallbacks (below.withFallbacks last) =
      below.withFallbacks (above.withFallbacks last) := by
  simp only [withFallbacks, mk.injEq]
  exact ⟨orElse_left_comm _ (h .arch), orElse_left_comm _ (h .container),
    orElse_left_comm _ (h .cpuCores), orElse_left_comm _ (h .cpuPower),
    orElse_left_comm _ (h .mem), orElse_left_comm _ (h .rootDisk), orElse_left_comm _ (h .tags)⟩

/-! ## What a word asks for -/

/-- A word asks for constraints on the field of a key. -/
def Asks (word : List Char) (key : Key) (asked : Constraints) : Prop :=
  ∃ value, word = key.assign value ∧ readValue key value = .ok asked

/-- The key of a word: what stands before its first equals sign, if that is a key. -/
def keyOf? (word : List Char) : Option Key :=
  (Text.cutFirst '=' word).bind fun (name, _) => Keyword.ofWord? (String.ofList name)

/-- What is asked for sets the field of the key and no other one. -/
theorem Asks.isSet_eq (h : Asks word key asked) (other : Key) :
    asked.isSet other = decide (other = key) := by
  obtain ⟨value, -, hvalue⟩ := h
  cases key with
  | arch =>
    simp only [readValue] at hvalue
    split at hvalue
    · cases hvalue
    · obtain rfl := Except.ok.inj hvalue
      cases other <;> rfl
  | container =>
    simp only [readValue] at hvalue
    split at hvalue
    · obtain rfl := Except.ok.inj hvalue
      cases other <;> rfl
    · cases hvalue
  | tags =>
    obtain rfl := Except.ok.inj hvalue
    cases other <;> rfl
  | _ =>
    obtain ⟨n, -, rfl⟩ := exists_of_map_mapError hvalue
    cases other <;> rfl

theorem Asks.disjoint (h : Asks word key asked) (hunset : above.isSet key = false) :
    above.Disjoint asked := by
  intro other hset
  rw [h.isSet_eq, decide_eq_false_iff_not]
  rintro rfl
  exact absurd (hunset.symm.trans hset) Bool.false_ne_true

theorem Asks.keyOf?_eq (h : Asks word key asked) : keyOf? word = some key := by
  obtain ⟨value, rfl, -⟩ := h
  have hkey : Keyword.ofWord? key.word = some key := Keyword.ofWord?_word key
  simp [keyOf?, Key.assign, Text.cutFirst_append key.equals_notMem_word, hkey]

/-- A word is accepted where its field is not set yet. -/
theorem addWord_eq_ok_iff : addWord read word = .ok later ↔
    ∃ key asked, Asks word key asked ∧ read.isSet key = false ∧
      later = asked.withFallbacks read := by
  constructor
  · intro h
    obtain ⟨key, value, asked, hword, hunset, hvalue, hlater⟩ := addWord_eq_ok h
    exact ⟨key, asked, ⟨value, hword, hvalue⟩, hunset, hlater⟩
  · rintro ⟨key, asked, ⟨value, rfl, hvalue⟩, hunset, rfl⟩
    exact addWord_assign hunset hvalue

/-- A word that asks for something is refused where its field is set. -/
theorem Asks.addWord_eq_error (h : Asks word key asked) (hset : read.isSet key = true) :
    addWord read word = .error (.duplicate key) := by
  obtain ⟨value, rfl, hvalue⟩ := h
  have hkey : Keyword.ofWord? key.word = some key := Keyword.ofWord?_word key
  simp [addWord, Key.assign, Text.cutFirst_append key.equals_notMem_word, hkey, hset, hvalue]

/-- Where a word is accepted, it is also accepted under constraints that do not set its field. -/
theorem Asks.addWord_withFallbacks (h : Asks word key asked) (habove : above.isSet key = false)
    (hread : read.isSet key = false) :
    addWord (above.withFallbacks read) word =
      .ok (above.withFallbacks (asked.withFallbacks read)) := by
  rw [(h.disjoint habove).withFallbacks_left_comm]
  refine addWord_eq_ok_iff.mpr ⟨key, asked, h, ?_, rfl⟩
  rw [isSet_withFallbacks, habove, hread, Bool.or_false]

/-! ## The words of a text -/

theorem foldlM_cons_eq_ok_iff : (word :: words).foldlM addWord read = .ok later ↔
    ∃ middle, addWord read word = .ok middle ∧ words.foldlM addWord middle = .ok later := by
  rw [List.foldlM_cons]
  cases addWord read word <;> simp [bind, Except.bind]

/-- What is set stays set. -/
theorem isSet_of_foldlM (h : words.foldlM addWord read = .ok later)
    (hset : read.isSet key = true) : later.isSet key = true := by
  induction words generalizing read with
  | nil => exact Except.ok.inj h ▸ hset
  | cons word rest ih =>
    obtain ⟨middle, hword, hrest⟩ := foldlM_cons_eq_ok_iff.mp h
    obtain ⟨_, asked, -, -, rfl⟩ := addWord_eq_ok_iff.mp hword
    apply ih hrest
    rw [isSet_withFallbacks, hset, Bool.or_true]

/-- Words are read below constraints that set none of their fields as they are read alone. -/
theorem foldlM_withFallbacks (h : words.foldlM addWord read = .ok later)
    (hdisjoint : above.Disjoint later) :
    words.foldlM addWord (above.withFallbacks read) = .ok (above.withFallbacks later) := by
  induction words generalizing read with
  | nil => exact congrArg _ (congrArg _ (Except.ok.inj h))
  | cons word rest ih =>
    obtain ⟨middle, hword, hrest⟩ := foldlM_cons_eq_ok_iff.mp h
    obtain ⟨key, asked, hasks, hunset, rfl⟩ := addWord_eq_ok_iff.mp hword
    have hset : later.isSet key = true := by
      apply isSet_of_foldlM hrest
      rw [isSet_withFallbacks, hasks.isSet_eq, decide_eq_true rfl, Bool.true_or]
    have habove : above.isSet key = false := by
      rw [← Bool.not_eq_true]
      intro habove
      exact absurd ((hdisjoint key habove).symm.trans hset) Bool.false_ne_true
    exact foldlM_cons_eq_ok_iff.mpr ⟨_, hasks.addWord_withFallbacks habove hunset, ih hrest⟩

/-- The first of the words whose field is set above has this key. -/
def FirstRepeated (above : Constraints) (words : List (List Char)) (key : Key) : Prop :=
  above.isSet key = true ∧ ∃ before word after, words = before ++ word :: after ∧
    keyOf? word = some key ∧
    ∀ earlier ∈ before, ∀ other, keyOf? earlier = some other → above.isSet other = false

/-- Of words that are read alone, the first one whose field is set above is refused. -/
theorem exists_firstRepeated (h : words.foldlM addWord read = .ok later)
    (hread : above.Disjoint read) (hlater : ¬above.Disjoint later) :
    ∃ key, above.FirstRepeated words key ∧
      words.foldlM addWord (above.withFallbacks read) = .error (.duplicate key) := by
  induction words generalizing read with
  | nil => exact absurd (Except.ok.inj h ▸ hread) hlater
  | cons word rest ih =>
    obtain ⟨middle, hword, hrest⟩ := foldlM_cons_eq_ok_iff.mp h
    obtain ⟨key, asked, hasks, hunset, rfl⟩ := addWord_eq_ok_iff.mp hword
    rw [List.foldlM_cons]
    cases habove : above.isSet key with
    | true =>
      have hset : (above.withFallbacks read).isSet key = true := by
        rw [isSet_withFallbacks, habove, Bool.true_or]
      rw [hasks.addWord_eq_error hset]
      exact ⟨key, ⟨habove, [], word, rest, rfl, hasks.keyOf?_eq, nofun⟩, rfl⟩
    | false =>
      have hmiddle : above.Disjoint (asked.withFallbacks read) := by
        intro other hother
        rw [isSet_withFallbacks, hasks.disjoint habove other hother, hread other hother,
          Bool.or_false]
      obtain ⟨first, ⟨hfirst, before, found, after, rfl, hfound, hbefore⟩, hrefused⟩ :=
        ih hrest hmiddle
      rw [hasks.addWord_withFallbacks habove hunset]
      refine ⟨first, ⟨hfirst, word :: before, found, after, rfl, hfound, ?_⟩, hrefused⟩
      rw [List.forall_mem_cons]
      refine ⟨fun other hother => ?_, hbefore⟩
      obtain rfl : key = other := Option.some.inj (hasks.keyOf?_eq.symm.trans hother)
      exact habove

/-- Words that are read below other constraints can be read alone. -/
theorem exists_of_foldlM_withFallbacks
    (h : words.foldlM addWord (above.withFallbacks read) = .ok later) :
    ∃ alone, words.foldlM addWord read = .ok alone := by
  induction words generalizing read with
  | nil => exact ⟨read, rfl⟩
  | cons word rest ih =>
    obtain ⟨middle, hword, hrest⟩ := foldlM_cons_eq_ok_iff.mp h
    obtain ⟨key, asked, hasks, hunset, rfl⟩ := addWord_eq_ok_iff.mp hword
    rw [isSet_withFallbacks, Bool.or_eq_false_iff] at hunset
    rw [← (hasks.disjoint hunset.1).withFallbacks_left_comm] at hrest
    obtain ⟨alone, halone⟩ := ih hrest
    have hfirst := addWord_eq_ok_iff.mpr ⟨key, asked, hasks, hunset.2, rfl⟩
    exact ⟨alone, foldlM_cons_eq_ok_iff.mpr ⟨_, hfirst, halone⟩⟩

/-- Two words that are accepted one after the other are accepted the other way round, too. -/
theorem addWord_comm {word' : List Char} (hfirst : addWord read word = .ok middle)
    (hsecond : addWord middle word' = .ok later) :
    ∃ middle', addWord read word' = .ok middle' ∧ addWord middle' word = .ok later := by
  obtain ⟨key, asked, hasks, hunset, rfl⟩ := addWord_eq_ok_iff.mp hfirst
  obtain ⟨key', asked', hasks', hunset', rfl⟩ := addWord_eq_ok_iff.mp hsecond
  rw [isSet_withFallbacks, Bool.or_eq_false_iff] at hunset'
  refine ⟨_, addWord_eq_ok_iff.mpr ⟨key', asked', hasks', hunset'.2, rfl⟩, ?_⟩
  have hcomm := (hasks'.disjoint hunset'.1).withFallbacks_left_comm read
  refine addWord_eq_ok_iff.mpr ⟨key, asked, hasks, ?_, hcomm.symm⟩
  have hother := hunset'.1
  rw [hasks.isSet_eq, decide_eq_false_iff_not] at hother
  rw [isSet_withFallbacks, hasks'.isSet_eq, hunset, decide_eq_false (Ne.symm hother),
    Bool.or_false]

/-- Words may be read in any order. -/
theorem foldlM_of_perm (hperm : words.Perm words') (h : words.foldlM addWord read = .ok later) :
    words'.foldlM addWord read = .ok later := by
  induction hperm generalizing read with
  | nil => exact h
  | cons word _ ih =>
    obtain ⟨middle, hword, hrest⟩ := foldlM_cons_eq_ok_iff.mp h
    exact foldlM_cons_eq_ok_iff.mpr ⟨middle, hword, ih hrest⟩
  | swap first second rest =>
    obtain ⟨middle, hsecond, htail⟩ := foldlM_cons_eq_ok_iff.mp h
    obtain ⟨middle', hfirst, hrest⟩ := foldlM_cons_eq_ok_iff.mp htail
    obtain ⟨other, hfirst', hsecond'⟩ := addWord_comm hsecond hfirst
    exact foldlM_cons_eq_ok_iff.mpr ⟨other, hfirst', foldlM_cons_eq_ok_iff.mpr ⟨_, hsecond', hrest⟩⟩
  | trans _ _ ih ih' => exact ih' (ih h)

/-! ## Texts -/

/-- The words of a text behind another one are read after those of the other one. -/
theorem parse_append (first second : String) :
    parse (first ++ " " ++ second) =
      parse first >>= fun read => (Text.words second.toList).foldlM addWord read := by
  have hwords : Text.words (first ++ " " ++ second).toList =
      Text.words first.toList ++ Text.words second.toList := by
    rw [String.toList_append, String.toList_append, List.append_assoc]
    exact Text.fieldsOn_append_cons rfl _ _
  rw [parse, parse, hwords, List.foldlM_append]

/-- Two texts with a blank between them: an error of the first one stands.  If both are read and
have no field in common, they are layered.  If they have one in common, the first word of the second
text whose field the first text has set is a repetition.  If only the first one is read, there is an
error.  And texts of the same words, in whatever order, are read as the same constraints or not at
all. -/
theorem texts_are_layered :
    (∀ first second error, parse first = .error error →
      parse (first ++ " " ++ second) = .error error) ∧
    (∀ first second above below, parse first = .ok above → parse second = .ok below →
      above.Disjoint below →
        parse (first ++ " " ++ second) = .ok (above.withFallbacks below)) ∧
    (∀ first second above below, parse first = .ok above → parse second = .ok below →
      (∃ key, above.isSet key = true ∧ below.isSet key = true) →
        ∃ key, above.FirstRepeated (Text.words second.toList) key ∧
          parse (first ++ " " ++ second) = .error (.duplicate key)) ∧
    (∀ first second above error, parse first = .ok above → parse second = .error error →
      ∃ error', parse (first ++ " " ++ second) = .error error') ∧
    (∀ text text', (Text.words text.toList).Perm (Text.words text'.toList) →
      ∀ constraints, parse text = .ok constraints ↔ parse text' = .ok constraints) := by
  refine ⟨?_, ?_, ?_, ?_, ?_⟩
  · intro first second error hfirst
    rw [parse_append, hfirst]
    rfl
  · intro first second above below hfirst hsecond hdisjoint
    rw [parse_append, hfirst]
    have hbehind := foldlM_withFallbacks hsecond hdisjoint
    rwa [withFallbacks_empty] at hbehind
  · rintro first second above below hfirst hsecond ⟨key, habove, hbelow⟩
    rw [parse_append, hfirst]
    have hrepeated := exists_firstRepeated hsecond (disjoint_empty above) fun hdisjoint =>
      absurd ((hdisjoint key habove).symm.trans hbelow) Bool.false_ne_true
    rwa [withFallbacks_empty] at hrepeated
  · intro first second above error hfirst hsecond
    rw [parse_append, hfirst]
    cases hbehind : (Text.words second.toList).foldlM addWord above with
    | error error' => exact ⟨error', hbehind⟩
    | ok later =>
      rw [← withFallbacks_empty above] at hbehind
      obtain ⟨alone, halone⟩ := exists_of_foldlM_withFallbacks hbehind
      exact absurd (halone.symm.trans hsecond) nofun
  · intro text text' hperm constraints
    exact ⟨foldlM_of_perm hperm, foldlM_of_perm hperm.symm⟩

theorem eq_ok_of_toOption {ε α : Type} {result : Except ε α} {a : α}
    (h : result.toOption = some a) : result = .ok a := by
  cases result with
  | error error => cases h
  | ok b => exact congrArg _ (Option.some.inj h)

/-- A text before words with other keys, before a word whose key it has itself and before one
without a value, and with its own words the other way round. -/
theorem texts_are_layered_sizes :
    let read : Constraints := { mem := some 1536, arch := some "amd64" }
    parse ("mem=1.5G arch=amd64" ++ " " ++ "cpu-cores=2 tags=") =
        .ok { read with cpuCores := some 2, tags := some [] } ∧
      parse ("cores" ++ " " ++ "mem=1.5G arch=amd64") = .error (.malformed "cores") ∧
      (∃ key, read.FirstRepeated (Text.words "tags= mem=3P arch=arm64".toList) key ∧
        parse ("mem=1.5G arch=amd64" ++ " " ++ "tags= mem=3P arch=arm64") =
          .error (.duplicate key)) ∧
      (∃ error, parse ("mem=1.5G arch=amd64" ++ " " ++ "cores") = .error error) ∧
      parse "arch=amd64 mem=1.5G" = .ok read := by
  intro read
  obtain ⟨hbefore, hlayered, hrepeated, hbehind, hperm⟩ := texts_are_layered
  have hfirst : parse "mem=1.5G arch=amd64" = .ok read := eq_ok_of_toOption (by decide +kernel)
  have hmalformed : parse "cores" = .error (.malformed "cores") := rfl
  refine ⟨?_, hbefore _ _ _ hmalformed, ?_, hbehind _ _ _ _ hfirst hmalformed, ?_⟩
  · have hsecond : parse "cpu-cores=2 tags=" = .ok { cpuCores := some 2, tags := some [] } :=
      eq_ok_of_toOption (by decide +kernel)
    refine hlayered _ _ _ _ hfirst hsecond fun key => ?_
    cases key <;> decide
  · have hsecond : parse "tags= mem=3P arch=arm64" =
        .ok { tags := some [], mem := some 3221225472, arch := some "arm64" } :=
      eq_ok_of_toOption (by decide +kernel)
    exact hrepeated _ _ _ _ hfirst hsecond ⟨.arch, rfl, rfl⟩
  · refine (hperm _ _ ?_ _).mp hfirst
    decide +kernel

end ControlPlane.Constraints
