import ElfTables.Text.Quoted
import Mathlib

namespace ElfTables.Quoted

variable {c letter : Char} {piece : List Char} {hides : Char → Bool} {text quoted : String}

/-- Characters with an escape of their own, and the letter that stands in it. -/
def lettered : List (Char × Char) :=
  [('"', '"'), ('\\', '\\'), ('\n', 'n'), ('\r', 'r'), ('\t', 't'), ('\x00', '0')]

/-- Characters that would not show by themselves. -/
def Hidden (c : Char) : Prop :=
  c ∈ controls ∨ c ∈ formats ∨ c ∈ separators ∨ c ∈ privateUse ∨ c ∈ fillers ∨ c ∈ extenders ∨
    c ∈ unassigned

/-- What is written for one character, where these are escaped by their code point: its digits in
base sixteen, in lower case and without zeros in front. -/
inductive Written (Escaped : Char → Prop) (c : Char) : List Char → Prop where
  | byLetter {letter : Char} (listed : (c, letter) ∈ lettered) : Written Escaped c ['\\', letter]
  | byCode (unlisted : ∀ letter, (c, letter) ∉ lettered) (escaped : Escaped c) :
    Written Escaped c
      (['\\', 'u', '\x7b'] ++ (Nat.digits 16 c.toNat).reverse.map Nat.digitChar ++ ['\x7d'])
  | itself (unlisted : ∀ letter, (c, letter) ∉ lettered) (shown : ¬Escaped c) : Written Escaped c [c]

def Quotes (Escaped : Char → Prop) (text quoted : String) : Prop :=
  ∃ pieces, List.Forall₂ (Written Escaped) text.toList pieces ∧
    quoted.toList = ['"'] ++ pieces.flatten ++ ['"']

theorem isHidden_iff : isHidden c = true ↔ Hidden c := by
  simp only [isHidden, Hidden, Bool.or_eq_true, CodePoints.contains_iff, or_assoc]

theorem toDigits_eq {value : Nat} (positive : 0 < value) :
    Nat.toDigits 16 value = (Nat.digits 16 value).reverse.map Nat.digitChar := by
  induction value using Nat.strong_induction_on with
  | _ value ih =>
      by_cases single : value < 16
      · rw [Nat.toDigits_of_lt_base single, Nat.digits_of_lt 16 value positive.ne' single]
        rfl
      · have front := ih (value / 16) (by omega) (by omega)
        rw [Nat.toDigits_of_base_le (by decide) (Nat.le_of_not_lt single), front,
          Nat.digits_def' (by decide) positive, List.reverse_cons, List.map_append]
        rfl

theorem escape_of_lettered (listed : (c, letter) ∈ lettered) :
    escape hides c = ['\\', letter] := by
  simp only [lettered, List.mem_cons, Prod.mk.injEq, List.not_mem_nil, or_false] at listed
  rcases listed with ⟨rfl, rfl⟩ | ⟨rfl, rfl⟩ | ⟨rfl, rfl⟩ | ⟨rfl, rfl⟩ | ⟨rfl, rfl⟩ | ⟨rfl, rfl⟩ <;>
    rfl

theorem escape_of_unlisted (unlisted : ∀ letter, (c, letter) ∉ lettered) :
    escape hides c =
      if hides c then
        ['\\', 'u', '\x7b'] ++ (Nat.digits 16 c.toNat).reverse.map Nat.digitChar ++ ['\x7d']
      else [c] := by
  have different : ∀ pair ∈ lettered, c ≠ pair.1 := by
    intro pair listed same
    apply unlisted pair.2
    rw [same]
    exact listed
  simp only [lettered, List.forall_mem_cons] at different
  rcases different with ⟨quote, backslash, newline, carriageReturn, tab, null, _⟩
  have positive : 0 < c.toNat := by
    apply Nat.pos_of_ne_zero
    intro zero
    exact null (Char.toNat_inj.mp zero)
  rw [escape, if_neg quote, if_neg backslash, if_neg newline, if_neg carriageReturn, if_neg tab,
    if_neg null, toDigits_eq positive]

theorem written_iff : Written (hides · = true) c piece ↔ escape hides c = piece := by
  constructor
  · intro written
    cases written with
    | byLetter listed => exact escape_of_lettered listed
    | byCode unlisted escaped => rw [escape_of_unlisted unlisted, if_pos escaped]
    | itself unlisted shown => rw [escape_of_unlisted unlisted, if_neg shown]
  · intro same
    rw [← same]
    by_cases listed : ∃ letter, (c, letter) ∈ lettered
    · rcases listed with ⟨letter, listed⟩
      rw [escape_of_lettered listed]
      exact .byLetter listed
    · have unlisted := not_exists.mp listed
      rw [escape_of_unlisted unlisted]
      split
      next escaped => exact .byCode unlisted escaped
      next shown => exact .itself unlisted shown

/-- There is one way to quote a text, and `encode` takes it. -/
theorem quotes_iff : Quotes (hides · = true) text quoted ↔ quoted = encode hides text := by
  have pieces_iff : ∀ pieces : List (List Char),
      List.Forall₂ (Written (hides · = true)) text.toList pieces ↔
        text.toList.map (escape hides) = pieces := by
    intro pieces
    have same : Written (hides · = true) = fun c piece => escape hides c = piece :=
      funext₂ fun _ _ => propext written_iff
    rw [← List.forall₂_eq_eq_eq, List.forall₂_map_left_iff, same]
  simp only [Quotes, pieces_iff, exists_eq_left']
  rw [← String.toList_inj, encode, String.toList_ofList, List.flatMap_def]
  rfl

theorem hidden_eq : (isHidden · = true) = Hidden :=
  funext fun _ => propext isHidden_iff

end ElfTables.Quoted
