import ElfTables.Command.AddressArgument
import ElfTables.Proofs.QuotedText
import Mathlib

namespace ElfTables.AddressArgument

variable {radix start value : Nat} {text : List Char}

/-- The character stands for this digit, letters in either case. -/
def IsDigit (radix : Nat) (c : Char) (digit : Nat) : Prop :=
  digit < radix ∧ (c = digit.digitChar ∨ c = digit.digitChar.toUpper)

/-- The text is made of digits only, and this is the number they are in positional notation. -/
def Denotes (radix : Nat) (text : List Char) (value : Nat) : Prop :=
  ∃ digits, List.Forall₂ (IsDigit radix) text digits ∧ Nat.ofDigits radix digits.reverse = value

def DenotesFrom (radix start : Nat) (text : List Char) (value : Nat) : Prop :=
  ∃ digits, List.Forall₂ (IsDigit radix) text digits ∧
    start * radix ^ digits.length + Nat.ofDigits radix digits.reverse = value

theorem denotesFrom_zero : DenotesFrom radix 0 text value ↔ Denotes radix text value := by
  simp only [DenotesFrom, Denotes, Nat.zero_mul, Nat.zero_add]

theorem denotesFrom_nil : DenotesFrom radix start [] value ↔ start = value := by
  simp only [DenotesFrom, List.forall₂_nil_left_iff, exists_eq_left, List.length_nil,
    List.reverse_nil, Nat.ofDigits_nil, Nat.pow_zero, Nat.mul_one, Nat.add_zero]

theorem denotesFrom_cons {c : Char} {rest : List Char} :
    DenotesFrom radix start (c :: rest) value ↔
      ∃ digit, IsDigit radix c digit ∧ DenotesFrom radix (start * radix + digit) rest value := by
  have shifted : ∀ (digit : Nat) (digits : List Nat),
      start * radix ^ (digit :: digits).length + Nat.ofDigits radix (digit :: digits).reverse =
        (start * radix + digit) * radix ^ digits.length + Nat.ofDigits radix digits.reverse := by
    intro digit digits
    rw [List.reverse_cons, Nat.ofDigits_append, Nat.ofDigits_singleton, List.length_reverse,
      List.length_cons]
    ring
  constructor
  · rintro ⟨_, places, total⟩
    obtain ⟨digit, digits, first, others, rfl⟩ := List.forall₂_cons_left_iff.mp places
    exact ⟨digit, first, digits, others, (shifted digit digits).symm.trans total⟩
  · rintro ⟨digit, first, digits, others, total⟩
    exact ⟨digit :: digits, .cons first others, (shifted digit digits).trans total⟩

theorem le_of_denotesFrom (positive : 0 < radix) (denotes : DenotesFrom radix start text value) :
    start ≤ value := by
  obtain ⟨digits, _, total⟩ := denotes
  calc
    start ≤ start * radix ^ digits.length :=
      Nat.le_mul_of_pos_right start (Nat.pow_pos positive)
    _ ≤ value := total ▸ Nat.le_add_right _ _

theorem eq_of_between {first last c : Char} (range : first ≤ c ∧ c ≤ last) (written : Nat → Char)
    (spelled : ∀ place ≤ last.toNat - first.toNat,
      Char.ofNat (first.toNat + place) = written place) :
    c = written (c.toNat - first.toNat) := by
  have low : first.toNat ≤ c.toNat := range.1
  have high : c.toNat - first.toNat ≤ last.toNat - first.toNat := Nat.sub_le_sub_right range.2 _
  rw [← spelled _ high, Nat.add_sub_cancel' low, Char.ofNat_toNat]

theorem isDigit_of_digitValue? {c : Char} {digit : Nat}
    (found : digitValue? radix c = some digit) : IsDigit radix c digit := by
  rw [digitValue?, Option.filter_eq_some_iff, decide_eq_true_iff] at found
  obtain ⟨found, small⟩ := found
  refine ⟨small, ?_⟩
  split at found
  next decimal =>
    cases found
    exact Or.inl (eq_of_between decimal Nat.digitChar (by decide))
  next =>
    split at found
    next lower =>
      cases found
      exact Or.inl (eq_of_between lower (fun place => (place + 10).digitChar) (by decide))
    next =>
      split at found
      next upper =>
        cases found
        exact Or.inr (eq_of_between upper (fun place => (place + 10).digitChar.toUpper)
          (by decide))
      next => cases found

theorem digitValue?_of_isDigit (bounded : radix ≤ 16) {c : Char} {digit : Nat}
    (place : IsDigit radix c digit) : digitValue? radix c = some digit := by
  obtain ⟨small, written⟩ := place
  have read : ∀ digit < 16, digitValue? 16 digit.digitChar = some digit ∧
      digitValue? 16 digit.digitChar.toUpper = some digit := by decide
  obtain ⟨lower, upper⟩ := read digit (Nat.lt_of_lt_of_le small bounded)
  have whole : digitValue? 16 c = some digit := by
    rcases written with rfl | rfl
    · exact lower
    · exact upper
  rw [digitValue?, Option.filter_eq_some_iff] at whole ⊢
  exact ⟨whole.1, decide_eq_true small⟩

theorem digitsFrom_of_isDigit (bounded : radix ≤ 16) {c : Char} {digit : Nat}
    (place : IsDigit radix c digit) (rest : List Char) :
    digitsFrom radix start (c :: rest) =
      if UInt64.size ≤ start * radix + digit then .error .tooLarge
      else digitsFrom radix (start * radix + digit) rest := by
  rw [digitsFrom, digitValue?_of_isDigit bounded place]

theorem exists_isDigit_of_digitsFrom {c : Char} {rest : List Char} {result : Except Fault Nat}
    (read : digitsFrom radix start (c :: rest) = result) (passed : result ≠ .error .invalidDigit) :
    ∃ digit, IsDigit radix c digit := by
  cases found : digitValue? radix c with
  | none =>
      rw [digitsFrom, found] at read
      exact absurd read.symm passed
  | some digit => exact ⟨digit, isDigit_of_digitValue? found⟩

theorem digitsFrom_eq_ok_iff (positive : 0 < radix) (bounded : radix ≤ 16)
    (fits : start < UInt64.size) :
    digitsFrom radix start text = .ok value ↔
      DenotesFrom radix start text value ∧ value < UInt64.size := by
  -- No front of the digits is too large either: a longer front is never smaller.
  induction text generalizing start with
  | nil =>
      rw [digitsFrom, denotesFrom_nil, Except.ok.injEq]
      constructor
      · rintro rfl
        exact ⟨rfl, fits⟩
      · exact And.left
  | cons c rest ih =>
      rw [denotesFrom_cons]
      constructor
      · intro read
        obtain ⟨digit, place⟩ := exists_isDigit_of_digitsFrom read nofun
        rw [digitsFrom_of_isDigit bounded place] at read
        split at read
        next => cases read
        next near =>
          obtain ⟨denotes, small⟩ := (ih (Nat.lt_of_not_le near)).mp read
          exact ⟨⟨digit, place, denotes⟩, small⟩
      · rintro ⟨⟨digit, place, denotes⟩, small⟩
        have near := Nat.lt_of_le_of_lt (le_of_denotesFrom positive denotes) small
        rw [digitsFrom_of_isDigit bounded place, if_neg (Nat.not_le.mpr near)]
        exact (ih near).mpr ⟨denotes, small⟩

def Overflows (radix start : Nat) (text : List Char) : Prop :=
  ∃ front value, front <+: text ∧ DenotesFrom radix start front value ∧ UInt64.size ≤ value

theorem overflows_of_le (far : UInt64.size ≤ start) : Overflows radix start text :=
  ⟨[], start, List.nil_prefix, denotesFrom_nil.mpr rfl, far⟩

theorem not_overflows_nil (fits : start < UInt64.size) : ¬Overflows radix start [] := by
  rintro ⟨front, value, before, denotes, far⟩
  rw [List.prefix_nil.mp before, denotesFrom_nil] at denotes
  exact Nat.not_le.mpr fits (denotes ▸ far)

theorem overflows_cons (fits : start < UInt64.size) {c : Char} {rest : List Char} :
    Overflows radix start (c :: rest) ↔
      ∃ digit, IsDigit radix c digit ∧ Overflows radix (start * radix + digit) rest := by
  constructor
  · rintro ⟨front, value, before, denotes, far⟩
    -- An empty front is `start` itself, which fits, so the front has the first character.
    cases front with
    | nil => exact absurd ⟨[], value, List.nil_prefix, denotes, far⟩ (not_overflows_nil fits)
    | cons first front =>
        obtain ⟨rfl, inside⟩ := List.cons_prefix_cons.mp before
        obtain ⟨digit, place, others⟩ := denotesFrom_cons.mp denotes
        exact ⟨digit, place, front, value, inside, others, far⟩
  · rintro ⟨digit, place, front, value, before, others, far⟩
    exact ⟨c :: front, value, List.cons_prefix_cons.mpr ⟨rfl, before⟩,
      denotesFrom_cons.mpr ⟨digit, place, others⟩, far⟩

theorem digitsFrom_eq_tooLarge_iff (bounded : radix ≤ 16) (fits : start < UInt64.size) :
    digitsFrom radix start text = .error .tooLarge ↔ Overflows radix start text := by
  induction text generalizing start with
  | nil =>
      rw [digitsFrom]
      exact iff_of_false nofun (not_overflows_nil fits)
  | cons c rest ih =>
      rw [overflows_cons fits]
      constructor
      · intro read
        obtain ⟨digit, place⟩ := exists_isDigit_of_digitsFrom read nofun
        refine ⟨digit, place, ?_⟩
        rw [digitsFrom_of_isDigit bounded place] at read
        split at read
        next far => exact overflows_of_le far
        next near => exact (ih (Nat.lt_of_not_le near)).mp read
      · rintro ⟨digit, place, overflows⟩
        rw [digitsFrom_of_isDigit bounded place]
        split
        next => rfl
        next near => exact (ih (Nat.lt_of_not_le near)).mpr overflows

theorem digitsFrom_ne_empty : digitsFrom radix start text ≠ .error .empty := by
  fun_induction digitsFrom radix start text with
  | case1 value => exact nofun
  | case2 value c rest strange => exact nofun
  | case3 value c rest digit found far => exact nofun
  | case4 value c rest digit found near ih => exact ih

def AnnouncesHex (text : List Char) : Prop := ['0', 'x'] <+: text ∨ ['0', 'X'] <+: text

instance (text : List Char) : Decidable (AnnouncesHex text) :=
  inferInstanceAs (Decidable (_ ∨ _))

def radixOf (text : List Char) : Nat := if AnnouncesHex text then 16 else 10

def announced (text : List Char) : List Char :=
  if AnnouncesHex text then text.drop 2 else text

def unsigned (text : List Char) : List Char := if ['+'] <+: text then text.drop 1 else text

theorem split_eq (text : List Char) : split text = (radixOf text, announced text) := by
  fun_cases split text with
  | case1 rest => rfl
  | case2 rest => rfl
  | case3 text lower upper =>
      have plain : ¬AnnouncesHex text := by
        rintro (⟨rest, rfl⟩ | ⟨rest, rfl⟩)
        · exact lower rest rfl
        · exact upper rest rfl
      rw [radixOf, announced, if_neg plain, if_neg plain]

theorem number_eq (radix : Nat) (text : List Char) :
    number radix text =
      if text = [] then .error .empty
      else if unsigned text = [] then .error .invalidDigit
      else digitsFrom radix 0 (unsigned text) := by
  fun_cases number radix text with
  | case1 => rfl
  | case2 => rfl
  | case3 digits more =>
      have several : unsigned ('+' :: digits) ≠ [] := more
      rw [if_neg (List.cons_ne_nil _ _), if_neg several]
      rfl
  | case4 text filled alone signed =>
      have plain : unsigned text = text := by
        rw [unsigned, if_neg]
        rintro ⟨digits, rfl⟩
        exact signed digits rfl
      rw [plain, if_neg filled, if_neg filled]

theorem number_eq_ok_iff (positive : 0 < radix) (bounded : radix ≤ 16) :
    number radix text = .ok value ↔
      unsigned text ≠ [] ∧ Denotes radix (unsigned text) value ∧ value < UInt64.size := by
  rw [number_eq]
  split
  next empty =>
    subst empty
    exact iff_of_false nofun fun accepted => accepted.1 rfl
  next =>
    split
    next alone => exact iff_of_false nofun fun accepted => accepted.1 alone
    next filled =>
      rw [digitsFrom_eq_ok_iff positive bounded (by decide), denotesFrom_zero]
      exact (and_iff_right filled).symm

theorem number_eq_empty_iff : number radix text = .error .empty ↔ text = [] := by
  rw [number_eq]
  split
  next empty => exact iff_of_true rfl empty
  next filled =>
    refine iff_of_false ?_ filled
    split
    next => exact nofun
    next => exact digitsFrom_ne_empty

theorem number_eq_tooLarge_iff (bounded : radix ≤ 16) :
    number radix text = .error .tooLarge ↔ Overflows radix 0 (unsigned text) := by
  have nothing : ¬Overflows radix 0 [] := not_overflows_nil (by decide)
  rw [number_eq]
  split
  next empty =>
    subst empty
    exact iff_of_false nofun nothing
  next =>
    split
    next alone =>
      rw [alone]
      exact iff_of_false nofun nothing
    next => exact digitsFrom_eq_tooLarge_iff bounded (by decide)

theorem radixOf_pos (text : List Char) : 0 < radixOf text := by
  rw [radixOf]
  split <;> decide

theorem radixOf_le (text : List Char) : radixOf text ≤ 16 := by
  rw [radixOf]
  split <;> decide

theorem read_eq (text : List Char) :
    read text = (number (radixOf text) (announced text)).map Nat.toUInt64 := by
  rw [read, split_eq]

variable {argument reason : String} {hides : Char → Bool}

theorem parseWith_eq_ok_iff {address : UInt64} :
    parseWith hides argument = .ok address ↔
      number (radixOf argument.toList) (announced argument.toList) = .ok address.toNat := by
  rw [parseWith, read_eq]
  cases result : number (radixOf argument.toList) (announced argument.toList) with
  | error fault => exact iff_of_false nofun nofun
  | ok value =>
      have small := ((number_eq_ok_iff (radixOf_pos _) (radixOf_le _)).mp result).2.2
      have same : value.toUInt64.toNat = value := Nat.mod_eq_of_lt small
      simp only [Except.map, Except.ok.injEq]
      rw [← UInt64.toNat_inj, same]

theorem message_injective : Function.Injective Fault.message := by
  intro left right same
  cases left <;> cases right <;> first | rfl | exact absurd same (by decide)

/-- The answer repeats the argument in quotes and gives this reason. -/
def Refused (Escaped : Char → Prop) (argument reason : String) (answer : Except String UInt64) :
    Prop :=
  ∃ quoted, Quoted.Quotes Escaped argument quoted ∧
    answer = .error ("invalid address " ++ quoted ++ ": " ++ reason)

theorem refused_iff {answer : Except String UInt64} :
    Refused (hides · = true) argument reason answer ↔
      answer = .error ("invalid address " ++ Quoted.encode hides argument ++ ": " ++ reason) := by
  simp only [Refused, Quoted.quotes_iff, exists_eq_left]

theorem refused_of_error {fault : Fault} (failed : read argument.toList = .error fault) :
    Refused (hides · = true) argument fault.message (parseWith hides argument) := by
  rw [refused_iff, parseWith, failed]
  rfl

theorem refused_iff_number {fault : Fault} :
    Refused (hides · = true) argument fault.message (parseWith hides argument) ↔
      number (radixOf argument.toList) (announced argument.toList) = .error fault := by
  have reads := read_eq argument.toList
  cases result : number (radixOf argument.toList) (announced argument.toList) with
  | ok value =>
      rw [result] at reads
      rw [refused_iff, parseWith, reads]
      exact iff_of_false nofun nofun
  | error found =>
      rw [result] at reads
      rw [refused_iff, refused_iff.mp (refused_of_error reads), Except.error.injEq,
        String.append_right_inj, Except.error.injEq]
      exact message_injective.eq_iff

theorem refused_invalid_iff :
    Refused (hides · = true) argument Fault.invalidDigit.message (parseWith hides argument) ↔
      (¬∃ address, parseWith hides argument = .ok address) ∧
        ¬Refused (hides · = true) argument Fault.empty.message (parseWith hides argument) ∧
        ¬Refused (hides · = true) argument Fault.tooLarge.message (parseWith hides argument) := by
  constructor
  · intro invalid
    have failed := refused_iff_number.mp invalid
    simp [parseWith_eq_ok_iff, refused_iff_number, failed]
  · rintro ⟨refused, filled, small⟩
    cases result : read argument.toList with
    | ok address => exact absurd ⟨address, by rw [parseWith, result]⟩ refused
    | error fault =>
        have told : Refused (hides · = true) argument fault.message (parseWith hides argument) :=
          refused_of_error result
        cases fault with
        | empty => exact absurd told filled
        | invalidDigit => exact told
        | tooLarge => exact absurd told small

def digitsOf (argument : String) : List Char := unsigned (announced argument.toList)

/-- There are digits in the argument, and nothing else, and they denote this number. -/
def IsNumeral (argument : String) (value : Nat) : Prop :=
  digitsOf argument ≠ [] ∧ Denotes (radixOf argument.toList) (digitsOf argument) value

/-- The digits in front, up to some place, denote a number that no word can hold. -/
def StartsTooLarge (argument : String) : Prop :=
  ∃ front value, front <+: digitsOf argument ∧ Denotes (radixOf argument.toList) front value ∧
    2 ^ 64 ≤ value

/-- An argument is an address just where digits, behind an announcement or a sign or not, denote a
number that fits a word. Else the answer says what came first: nothing at all, a number too large
already, whatever follows, or a character that is no digit. -/
structure Decided (Escaped : Char → Prop) (argument : String) (answer : Except String UInt64) :
    Prop where
  accepted : ∀ address, answer = .ok address ↔ IsNumeral argument address.toNat
  empty : Refused Escaped argument "cannot parse integer from empty string" answer ↔
    announced argument.toList = []
  tooLarge : Refused Escaped argument "number too large to fit in target type" answer ↔
    StartsTooLarge argument
  invalid : Refused Escaped argument "invalid digit found in string" answer ↔
    (¬∃ address : UInt64, IsNumeral argument address.toNat) ∧
      announced argument.toList ≠ [] ∧ ¬StartsTooLarge argument

theorem parseWith_decided (hides : Char → Bool) (argument : String) :
    Decided (hides · = true) argument (parseWith hides argument) := by
  have accepted : ∀ address, parseWith hides argument = .ok address ↔
      IsNumeral argument address.toNat := by
    intro address
    rw [parseWith_eq_ok_iff, number_eq_ok_iff (radixOf_pos _) (radixOf_le _)]
    exact and_congr_right fun _ => and_iff_left address.toNat_lt
  have empty :
      Refused (hides · = true) argument Fault.empty.message (parseWith hides argument) ↔
        announced argument.toList = [] :=
    refused_iff_number.trans number_eq_empty_iff
  have tooLarge :
      Refused (hides · = true) argument Fault.tooLarge.message (parseWith hides argument) ↔
        StartsTooLarge argument := by
    rw [refused_iff_number, number_eq_tooLarge_iff (radixOf_le _)]
    simp only [Overflows, denotesFrom_zero]
    rfl
  refine ⟨accepted, empty, tooLarge, ?_⟩
  calc
    Refused (hides · = true) argument Fault.invalidDigit.message (parseWith hides argument) ↔ _ :=
      refused_invalid_iff
    _ ↔ _ := and_congr (not_congr (exists_congr accepted))
      (and_congr (not_congr empty) (not_congr tooLarge))

/-- Every argument is decided, and one that is refused is repeated in quotes, its hidden characters
escaped. The same holds with any other set of characters in their place. -/
theorem parse_decided (argument : String) :
    Decided Quoted.Hidden argument (parse argument) ∧
      ∀ hides : Char → Bool, Decided (hides · = true) argument (parseWith hides argument) := by
  constructor
  · rw [← Quoted.hidden_eq]
    exact parseWith_decided Quoted.isHidden argument
  · intro hides
    exact parseWith_decided hides argument

theorem parse_decided_unseen :
    parse "0x7f\u200b\"" =
        .error "invalid address \"0x7f\\u\x7b200b\x7d\\\"\": invalid digit found in string" ∧
      ¬∃ address : UInt64, IsNumeral "0x7f\u200b\"" address.toNat := by
  have quotes : Quoted.Quotes Quoted.Hidden "0x7f\u200b\"" "\"0x7f\\u\x7b200b\x7d\\\"\"" := by
    rw [← Quoted.hidden_eq, Quoted.quotes_iff]
    decide +kernel
  have refused : Refused Quoted.Hidden "0x7f\u200b\"" "invalid digit found in string"
      (parse "0x7f\u200b\"") := ⟨_, quotes, by decide +kernel⟩
  exact ⟨by decide +kernel, ((parse_decided _).1.invalid.mp refused).1⟩

example : parse "0X+001F" = .ok 31 := by decide

example : read "+0x1f".toList = .error .invalidDigit := by decide

example : read "18446744073709551616x".toList = .error .tooLarge := by decide

end ElfTables.AddressArgument
