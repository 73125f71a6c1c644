import ElfTables.Command.Answer
import ElfTables.Proofs.PrintedNumbers

namespace ElfTables

namespace AddressArgument

variable {radix value : Nat} {text : List Char} {digits : List Nat}

theorem exists_digitValue? (bounded : radix ≤ 16)
    (places : List.Forall₂ (IsDigit radix) text digits) {c : Char} (member : c ∈ text) :
    ∃ digit, digitValue? radix c = some digit := by
  induction places with
  | nil => cases member
  | cons first others ih =>
      rcases List.mem_cons.mp member with rfl | member
      · exact ⟨_, digitValue?_of_isDigit bounded first⟩
      · exact ih member

theorem lt_radix_of_mem (places : List.Forall₂ (IsDigit radix) text digits) {digit : Nat}
    (member : digit ∈ digits) : digit < radix := by
  induction places with
  | nil => cases member
  | cons first others ih =>
      rcases List.mem_cons.mp member with rfl | member
      · exact first.1
      · exact ih member

theorem not_mem_of_denotes (c : Char) (bounded : radix ≤ 16) (strange : digitValue? radix c = none)
    (denotes : Denotes radix text value) : c ∉ text := by
  intro member
  obtain ⟨digits, places, _⟩ := denotes
  obtain ⟨digit, found⟩ := exists_digitValue? bounded places member
  rw [strange] at found
  cases found

theorem unsigned_of_denotes (bounded : radix ≤ 16) (denotes : Denotes radix text value) :
    unsigned text = text := by
  rw [unsigned, if_neg]
  rintro ⟨rest, rfl⟩
  exact not_mem_of_denotes '+' bounded rfl denotes (by simp)

theorem not_announcesHex_of_denotes (denotes : Denotes 10 text value) : ¬AnnouncesHex text := by
  rintro (⟨rest, rfl⟩ | ⟨rest, rfl⟩)
  · exact not_mem_of_denotes 'x' (by decide) rfl denotes (by simp)
  · exact not_mem_of_denotes 'X' (by decide) rfl denotes (by simp)

theorem lt_pow_length_of_denotes (several : 1 < radix) (denotes : Denotes radix text value) :
    value < radix ^ text.length := by
  obtain ⟨digits, places, rfl⟩ := denotes
  calc
    _ < radix ^ digits.reverse.length :=
      Nat.ofDigits_lt_base_pow_length several fun digit member =>
        lt_radix_of_mem places (List.mem_reverse.mp member)
    _ = radix ^ text.length := by rw [List.length_reverse, places.length_eq]

theorem denotes_toDigits (several : 1 < radix) (bounded : radix ≤ 16)
    (fits : value < UInt64.size) : Denotes radix (Nat.toDigits radix value) value := by
  have read := digitsFrom_toDigits (spells_of_le bounded) several fits
  have denotes := (digitsFrom_eq_ok_iff (by omega) bounded (by decide)).mp read
  exact denotesFrom_zero.mp denotes.1

theorem denotes_digits (width : Nat) (fits : value < UInt64.size) :
    Denotes 16 (Hex.digits width value) value := by
  have denotes := (digitsFrom_eq_ok_iff (by decide) (by decide) (by decide)).mp
    (digitsFrom_digits width fits)
  exact denotesFrom_zero.mp denotes.1

variable {argument : String} {address : UInt64}

theorem parse_of_denotes {rest : List Char} (left : announced argument.toList = rest)
    (filled : rest ≠ []) (denotes : Denotes (radixOf argument.toList) rest address.toNat) :
    parse argument = .ok address := by
  have bounded := radixOf_le argument.toList
  rw [parse, parseWith_eq_ok_iff, left, number_eq_ok_iff (radixOf_pos _) bounded,
    unsigned_of_denotes bounded denotes]
  exact ⟨filled, denotes, address.toNat_lt⟩

theorem parse_literal (width : Nat) (address : UInt64) :
    parse (Hex.literal width address.toNat) = .ok address := by
  have split : (Hex.literal width address.toNat).toList =
      '0' :: 'x' :: Hex.digits width address.toNat := String.toList_ofList
  have filled : Hex.digits width address.toNat ≠ [] := by
    rw [← List.length_pos_iff, Hex.length_digits]
    exact Nat.lt_of_lt_of_le Nat.length_toDigits_pos (Nat.le_max_right _ _)
  apply parse_of_denotes _ filled
  · rw [split]
    exact denotes_digits width address.toNat_lt
  · rw [split]
    rfl

theorem parse_decimal (address : UInt64) :
    parse (String.ofList (Nat.toDigits 10 address.toNat)) = .ok address := by
  have denotes : Denotes 10 (Nat.toDigits 10 address.toNat) address.toNat :=
    denotes_toDigits (by decide) (by decide) address.toNat_lt
  have plain := not_announcesHex_of_denotes denotes
  have filled : Nat.toDigits 10 address.toNat ≠ [] :=
    List.ne_nil_of_length_pos Nat.length_toDigits_pos
  apply parse_of_denotes _ filled
  · rwa [String.toList_ofList, radixOf, if_neg plain]
  · rw [String.toList_ofList, announced, if_neg plain]

/-- Behind `0x` the text has this many hexadecimal digits, and they are all of the number. -/
def ShowsDigits (text : String) (value count : Nat) : Prop :=
  ∃ digits, text.toList = '0' :: 'x' :: digits ∧ digits.length = count ∧ Denotes 16 digits value

def digitCounts (value : Nat) : Set Nat :=
  {count | ∃ digits, digits.length = count ∧ Denotes 16 digits value}

theorem isLeast_length_toDigits (positive : 0 < value) (fits : value < UInt64.size) :
    IsLeast (digitCounts value) (Nat.toDigits 16 value).length := by
  constructor
  · exact ⟨_, rfl, denotes_toDigits (by decide) (by decide) fits⟩
  · rintro _ ⟨digits, rfl, denotes⟩
    have below : value < 16 ^ digits.length := lt_pow_length_of_denotes (by decide) denotes
    have filled : 0 < digits.length := by
      rw [Nat.pos_iff_ne_zero]
      intro none
      rw [none] at below
      omega
    exact (Nat.length_toDigits_le_iff (by decide) filled).mpr below

theorem ShowsDigits.length_eq {text : String} {count : Nat} (shown : ShowsDigits text value count) :
    text.length = count + 2 := by
  obtain ⟨digits, written, rfl, _⟩ := shown
  rw [← String.length_toList, written]
  rfl

theorem showsDigits_literal {width count : Nat}
    (length : (Hex.digits width address.toNat).length = count) :
    ShowsDigits (Hex.literal width address.toNat) address.toNat count :=
  ⟨_, String.toList_ofList, length, denotes_digits width address.toNat_lt⟩

/-- The text of an address in any width, the text of an offset, and the number that stands in a
record are arguments for what they print. Offsets and the addresses of a wide or unknown object
have sixteen digits. Those of a narrow object have eight, and where eight are too few, as many as
it takes and no more. -/
theorem printed_read_back (address : UInt64) (width : AddressWidth) :
    parse (width.format address) = .ok address ∧
    parse (formatOffset address) = .ok address ∧
    (∀ segment?, ∃ printed, (Answer.offsetRecord address segment?).lookup "vaddr" = some printed ∧
      parse (String.ofList (Json.scalar printed)) = .ok address) ∧
    ShowsDigits (formatOffset address) address.toNat 16 ∧
    ∃ count, ShowsDigits (width.format address) address.toNat count ∧
      match width with
      | .bits64 | .unknown => count = 16
      | .bits32 =>
        if address.toNat < 2 ^ 32 then count = 8
        else IsLeast (digitCounts address.toNat) count := by
  have sixteen : ShowsDigits (Hex.literal 16 address.toNat) address.toNat 16 :=
    showsDigits_literal (Hex.length_digits_of_lt (by decide) address.toNat_lt)
  refine ⟨parse_literal _ address, parse_literal _ address, ?decimal, sixteen, ?count⟩
  case decimal =>
    intro segment?
    exact ⟨.number address.toNat, rfl, parse_decimal address⟩
  case count =>
    cases width with
    | bits64 => exact ⟨16, sixteen, rfl⟩
    | unknown => exact ⟨16, sixteen, rfl⟩
    | bits32 =>
        by_cases short : address.toNat < 2 ^ 32
        · have eight : (Hex.digits 8 address.toNat).length = 8 :=
            Hex.length_digits_of_lt (by decide) short
          refine ⟨8, showsDigits_literal eight, ?_⟩
          simp only [short, if_true]
        · have all : (Hex.digits 8 address.toNat).length =
              (Nat.toDigits 16 address.toNat).length :=
            Hex.length_digits_of_le (by decide) (Nat.le_of_not_lt short)
          refine ⟨_, showsDigits_literal all, ?_⟩
          simp only [short, if_false]
          exact isLeast_length_toDigits (by omega) address.toNat_lt

end AddressArgument

end ElfTables
