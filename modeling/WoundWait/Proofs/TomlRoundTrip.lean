import Mathlib
import WoundWait.Options.Toml
import WoundWait.Proofs.TomlNumerals

/-!
Options written as a document and read again. A line with a bare key and a number adds the entry it
was written for, so lines with different keys are read as the entries one after another. Valid
options come back as they were, and what the check refuses is refused again.
-/

namespace WoundWait

namespace Toml

theorem isBareKeyCharacter_ne {character mark : Char} (bare : isBareKeyCharacter character = true)
    (plain : isBareKeyCharacter mark = false) : character ≠ mark := by
  rintro rfl
  cases bare.symm.trans plain

def IsBare (key : String) : Prop :=
  key.toList ≠ [] ∧ ∀ character ∈ key.toList, isBareKeyCharacter character = true

theorem IsBare.exists_cons {key : String} (bare : IsBare key) :
    ∃ first others, key.toList = first :: others ∧
      ∀ character ∈ first :: others, isBareKeyCharacter character = true := by
  obtain ⟨first, others, written⟩ := List.exists_cons_of_ne_nil bare.1
  exact ⟨first, others, written, written ▸ bare.2⟩

def linesOf : List (String × Nat) → List Char
  | [] => []
  | entry :: rest =>
      entry.1.toList ++ ' ' :: '=' :: ' ' :: (Nat.toDigits 10 entry.2 ++ '\n' :: linesOf rest)

def entryOf (entry : String × Nat) : String × Item :=
  (entry.1, .scalar (.integer (entry.2 : Int)))

/-! One line -/

theorem skipBlanks_cons (first : Char) (others : List Char) (space : first ≠ ' ') (tab : first ≠ '\t') :
    skipBlanks (first :: others) = first :: others := by
  rw [skipBlanks, List.dropWhile_cons_of_neg]
  simp [isBlank, space, tab]

theorem skipBlanks_numeral (number : Nat) (rest : List Char) :
    skipBlanks (Nat.toDigits 10 number ++ rest) = Nat.toDigits 10 number ++ rest := by
  obtain ⟨digit, more, written⟩ := numeral_exists number
  rw [written.written]
  exact skipBlanks_cons digit (more ++ rest) (isDigit_ne written.digit rfl) (isDigit_ne written.digit rfl)

section

variable {key : String}

theorem IsBare.skipBlanks (bare : IsBare key) (rest : List Char) :
    skipBlanks (key.toList ++ rest) = key.toList ++ rest := by
  obtain ⟨first, others, written, plain⟩ := bare.exists_cons
  have start := plain first List.mem_cons_self
  rw [written]
  exact skipBlanks_cons first (others ++ rest) (isBareKeyCharacter_ne start (by decide))
    (isBareKeyCharacter_ne start (by decide))

theorem IsBare.simpleKey? (bare : IsBare key) (rest : List Char) :
    simpleKey? (key.toList ++ ' ' :: rest) = some (key, ' ' :: rest) := by
  obtain ⟨first, others, written, plain⟩ := bare.exists_cons
  have start := plain first List.mem_cons_self
  have basic : first ≠ '"' := isBareKeyCharacter_ne start (by decide)
  have literal : first ≠ '\'' := isBareKeyCharacter_ne start (by decide)
  have taken : ((first :: others) ++ ' ' :: rest).takeWhile isBareKeyCharacter = first :: others := by
    rw [List.takeWhile_append_of_pos plain, List.takeWhile_cons_of_neg (by decide), List.append_nil]
  have left : ((first :: others) ++ ' ' :: rest).dropWhile isBareKeyCharacter = ' ' :: rest := by
    rw [List.dropWhile_append_of_pos plain, List.dropWhile_cons_of_neg (by decide)]
  have whole : String.ofList (first :: others) = key := by
    rw [← written, String.ofList_toList]
  rw [List.cons_append] at taken left
  rw [written, List.cons_append, Toml.simpleKey?]
  simp only [taken, left, whole]
  simp [basic, literal]

theorem IsBare.key? (bare : IsBare key) (rest : List Char) :
    key? (key.toList ++ ' ' :: '=' :: rest) = some ([key], '=' :: rest) := by
  have part : keyWithin ((key.toList ++ ' ' :: '=' :: rest).length + 1)
      (key.toList ++ ' ' :: '=' :: rest) = some ([key], '=' :: rest) := by
    rw [keyWithin, bare.skipBlanks]
    simp only [bare.simpleKey?]
    rfl
  rw [Toml.key?, part]
  rfl

theorem IsBare.keyValue? (bare : IsBare key) (number : Nat) (small : number ≤ Word.signedLimit)
    (rest : List Char) :
    keyValue? value? (key.toList ++ ' ' :: '=' :: ' ' :: (Nat.toDigits 10 number ++ '\n' :: rest)) =
      some (([key], .scalar (.integer (number : Int))), '\n' :: rest) := by
  have blank (characters : List Char) : Toml.skipBlanks (' ' :: characters) =
      Toml.skipBlanks characters := rfl
  rw [Toml.keyValue?]
  simp only [bare.key?, blank, skipBlanks_numeral, value?_numeral number rest small]
  rfl

end

def Draft.flat (entries : List (String × Nat)) : Draft :=
  { root := .mk .header (entries.map entryOf), header := [] }

theorem Draft.flat_addLine (entries : List (String × Nat)) (entry : String × Nat)
    (fresh : ∀ earlier ∈ entries, earlier.1 ≠ entry.1) :
    (flat entries).addLine [entry.1] (entryOf entry).2 = some (flat (entries ++ [entry])) := by
  have absent : Table.find? (.mk .header (entries.map entryOf)) entry.1 = none := by
    rw [Table.find?, Option.map_eq_none_iff, List.find?_eq_none]
    intro item member
    obtain ⟨earlier, kept, rfl⟩ := List.mem_map.mp member
    simpa [entryOf] using fresh earlier kept
  simp only [Draft.addLine, flat, Table.changeAt, Table.addDotted, List.getLast?_singleton,
    List.dropLast_singleton, Table.origin, Table.addNew, absent, Table.put, Table.entries]
  simp [entryOf]

theorem valueLine?_flat (entries : List (String × Nat)) (entry : String × Nat)
    (bare : IsBare entry.1) (small : entry.2 ≤ Word.signedLimit)
    (fresh : ∀ earlier ∈ entries, earlier.1 ≠ entry.1) (rest : List Char) :
    valueLine? (Draft.flat entries) (entry.1.toList ++ ' ' :: '=' :: ' ' ::
      (Nat.toDigits 10 entry.2 ++ '\n' :: rest)) = some (Draft.flat (entries ++ [entry]), rest) := by
  have added := Draft.flat_addLine entries entry fresh
  have closed : closeLine? ('\n' :: rest) = some rest := rfl
  rw [valueLine?, bare.keyValue? entry.2 small rest]
  simp only [closed, Option.bind_some]
  rw [show Item.scalar (.integer (entry.2 : Int)) = (entryOf entry).2 from rfl, added]
  rfl

/-! Lines -/

/-- Neither empty nor a comment nor a header: a line that begins with a bare key is read for its
value. -/
theorem IsBare.linesWithin {key : String} (bare : IsBare key) (lines : Nat) (draft extended : Draft)
    (rest after : List Char)
    (line : valueLine? draft (key.toList ++ rest) = some (extended, after)) :
    linesWithin (lines + 1) draft (key.toList ++ rest) = linesWithin lines extended after := by
  obtain ⟨first, others, written, plain⟩ := bare.exists_cons
  have start := plain first List.mem_cons_self
  have filled : (first == '#' || first == '\n' || first == '\r') = false := by
    have comment : first ≠ '#' := isBareKeyCharacter_ne start (by decide)
    have ending : first ≠ '\n' := isBareKeyCharacter_ne start (by decide)
    have turn : first ≠ '\r' := isBareKeyCharacter_ne start (by decide)
    simp [comment, ending, turn]
  have unbracketed : (first == '[') = false :=
    beq_eq_false_iff_ne.mpr (isBareKeyCharacter_ne start (by decide))
  rw [Toml.linesWithin, bare.skipBlanks]
  rw [written, List.cons_append] at line ⊢
  simp only [filled, unbracketed, Bool.false_eq_true, ↓reduceIte, line]

section

variable {entries : List (String × Nat)}
variable (bare : ∀ entry ∈ entries, IsBare entry.1)
variable (small : ∀ entry ∈ entries, entry.2 ≤ Word.signedLimit)

include bare small in
/-- Lines for different bare keys are read as their entries, in their order. -/
theorem linesWithin_linesOf (earlier : List (String × Nat))
    (distinct : ((earlier ++ entries).map Prod.fst).Nodup) (lines : Nat)
    (enough : entries.length < lines) :
    linesWithin lines (Draft.flat earlier) (linesOf entries) =
      some (Draft.flat (earlier ++ entries)) := by
  induction entries generalizing earlier lines with
  | nil =>
      obtain ⟨lines, rfl⟩ := Nat.exists_eq_succ_of_ne_zero (Nat.ne_zero_of_lt enough)
      rw [List.append_nil]
      rfl
  | cons entry rest ih =>
      obtain ⟨lines, rfl⟩ := Nat.exists_eq_succ_of_ne_zero (Nat.ne_zero_of_lt enough)
      have name := bare entry List.mem_cons_self
      have fresh : ∀ before ∈ earlier, before.1 ≠ entry.1 := by
        intro before member
        rw [List.map_append, List.nodup_append] at distinct
        exact distinct.2.2 _ (List.mem_map_of_mem member) _ (by simp)
      have line := valueLine?_flat earlier entry name (small entry List.mem_cons_self)
        fresh (linesOf rest)
      have further := ih (fun next member => bare next (List.mem_cons_of_mem entry member))
        (fun next member => small next (List.mem_cons_of_mem entry member)) (earlier ++ [entry])
        (by simpa using distinct) lines (by simpa using enough)
      rw [linesOf, Nat.succ_eq_add_one, name.linesWithin lines _ _ _ _ line, further]
      simp

theorem length_linesOf (entries : List (String × Nat)) : entries.length ≤ (linesOf entries).length := by
  induction entries with
  | nil => exact le_rfl
  | cons entry rest ih =>
      simp only [linesOf, List.length_append, List.length_cons]
      omega

include bare in
theorem withoutMark_linesOf : withoutMark (linesOf entries) = linesOf entries := by
  cases entries with
  | nil => rfl
  | cons entry rest =>
      obtain ⟨first, others, written, plain⟩ := (bare entry List.mem_cons_self).exists_cons
      have unmarked : first ≠ '\ufeff' :=
        isBareKeyCharacter_ne (plain first List.mem_cons_self) (by decide)
      rw [linesOf, written, List.cons_append, withoutMark]
      exact fun _ same => unmarked (List.cons.inj same).1

include bare small in
theorem parse?_linesOf (distinct : (entries.map Prod.fst).Nodup) (text : String)
    (written : text.toList = linesOf entries) :
    parse? text = some (.mk .header (entries.map entryOf)) := by
  have enough : entries.length < (linesOf entries).length + 1 :=
    Nat.lt_succ_of_le (length_linesOf entries)
  have read := linesWithin_linesOf bare small [] distinct _ enough
  have start : Draft.flat [] = { root := .empty .header, header := [] } := rfl
  rw [start] at read
  rw [parse?, written, withoutMark_linesOf bare]
  simp only [read]
  rfl

end

end Toml

namespace Options

theorem toList_lines (keys : List String) (numbers : List Nat) :
    (String.join (List.zipWith tomlLine keys numbers)).toList = Toml.linesOf (keys.zip numbers) := by
  induction keys generalizing numbers with
  | nil => rfl
  | cons key others ih =>
      cases numbers with
      | nil => rfl
      | cons number rest =>
          rw [List.zipWith_cons_cons, String.join_cons, String.toList_append, ih rest, List.zip_cons_cons,
            Toml.linesOf, tomlLine, Nat.toString_eq_ofList_toDigits]
          simp

theorem keys_bare : ∀ key ∈ keys, Toml.IsBare key := by
  simp [keys, Toml.IsBare, Toml.isBareKeyCharacter]

theorem keys_nodup : keys.Nodup := by
  decide

/-- What can be written is read as what was written, before it is checked. -/
theorem ofToml_toToml (options : Options) (text : String) (written : options.toToml = .ok text) :
    ofToml text = options.validated := by
  rw [toToml] at written
  split at written
  · rename_i small
    cases written
    have bare : ∀ entry ∈ keys.zip options.numbers, Toml.IsBare entry.1 :=
      fun entry member => keys_bare entry.1 (List.of_mem_zip member).1
    have held : ∀ entry ∈ keys.zip options.numbers, entry.2 ≤ Word.signedLimit :=
      fun entry member => by simpa using List.all_eq_true.mp small _ (List.of_mem_zip member).2
    have named : (keys.zip options.numbers).map Prod.fst = keys := List.map_fst_zip le_rfl
    have read := Toml.parse?_linesOf bare held (named ▸ keys_nodup) _ (toList_lines keys options.numbers)
    have taken : ofTable? (.mk .header ((keys.zip options.numbers).map Toml.entryOf)) = some options := by
      simp [ofTable?, tomlNumber?, keys, numbers, Toml.entryOf, Toml.Table.find?, Toml.Table.entries]
    rw [ofToml, read, Option.bind_some, taken]
  · cases written

/-- A document has no integer for one of the timeouts. -/
def IsBeyondText (options : Options) : Prop :=
  Word.signedLimit < options.lockTimeout ∨ Word.signedLimit < options.lockAcquireTimeout ∨
    Word.signedLimit < options.prepareTimeout

theorem validate_ok (options : Options) (valid : options.validate = .ok ()) :
    options.maxLockGroupSize ≤ groupSizeLimit := by
  simp only [validate] at valid
  split_ifs at valid
  omega

theorem toToml_beyond (options : Options) (beyond : options.IsBeyondText) :
    options.toToml = .error .unrenderable := by
  rw [toToml, if_neg]
  simp only [numbers, List.all_cons, List.all_nil, Bool.and_true, Bool.and_eq_true, decide_eq_true_eq]
  rcases beyond with lock | acquire | prepare <;> omega

theorem toToml_within (options : Options) (valid : options.validate = .ok ())
    (within : ¬ options.IsBeyondText) : ∃ text, options.toToml = .ok text := by
  have few := validate_ok options valid
  have limits : groupSizeLimit ≤ Word.signedLimit := by decide
  simp only [IsBeyondText, not_or, Nat.not_lt] at within
  refine ⟨_, if_pos ?_⟩
  simp only [numbers, List.all_cons, List.all_nil, Bool.and_true, Bool.and_eq_true, decide_eq_true_eq]
  exact ⟨within.1, within.2.1, within.2.2, few.trans limits⟩

/-- Valid options have a text unless a timeout is beyond the integers of a document, and their text
is read as the options they are. The text of other options is refused for the fault that the check
finds. -/
theorem toToml_ofToml (options : Options) :
    (options.validate = .ok () →
      (options.IsBeyondText → options.toToml = .error .unrenderable) ∧
      (¬ options.IsBeyondText →
        ∃ text, options.toToml = .ok text ∧ ofToml text = .ok options)) ∧
    ∀ fault, options.validate = .error fault →
      ∀ text, options.toToml = .ok text → ofToml text = .error fault := by
  refine ⟨fun valid => ⟨toToml_beyond options, fun within => ?_⟩, fun fault refused text written => ?_⟩
  · obtain ⟨text, written⟩ := toToml_within options valid within
    have read := ofToml_toToml options text written
    rw [validated, valid] at read
    exact ⟨text, written, read⟩
  · have read := ofToml_toToml options text written
    rw [validated, refused] at read
    exact read

theorem standard_toToml_ofToml :
    (∃ text, standard.toToml = .ok text ∧ ofToml text = .ok standard) ∧
      ∃ text, toToml ⟨0, 10000, 20000, 1⟩ = .ok text ∧ ofToml text = .error .lockTimeoutZero := by
  have within : ¬ standard.IsBeyondText := by
    unfold IsBeyondText
    decide
  have refused := (toToml_ofToml ⟨0, 10000, 20000, 1⟩).2 .lockTimeoutZero rfl
  exact ⟨((toToml_ofToml standard).1 rfl).2 within, _, rfl, refused _ rfl⟩

end Options

end WoundWait
