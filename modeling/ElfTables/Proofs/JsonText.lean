import ElfTables.Text.Json
import Mathlib

/-!
JSON text is read in one way only: no two records have the same text (`Json.record_inj`), and no
two lists of records (`Json.rows_inj`). Each part can be told from whatever stands behind it.
-/
namespace ElfTables.Json

section Strings

def escaped : List Nat := 0x22 :: 0x5c :: List.range 0x20

theorem eq_of_escape_begins_escaped : ∀ first ∈ escaped, ∀ second ∈ escaped,
    escape (Char.ofNat first) <+: escape (Char.ofNat second) → first = second := by
  decide +kernel

theorem head_escape_escaped : ∀ code ∈ escaped, (escape (Char.ofNat code)).head? = some '\\' := by
  decide +kernel

variable {c d : Char}

theorem escape_of_mem (special : c.toNat ∈ escaped) : ∃ rest, escape c = '\\' :: rest := by
  rw [← List.head?_eq_some_iff, ← Char.ofNat_toNat c]
  exact head_escape_escaped c.toNat special

theorem escape_of_not_mem (plain : c.toNat ∉ escaped) : escape c = [c] := by
  have apart (d : Char) (special : d.toNat ∈ escaped) : c ≠ d := by
    rintro rfl
    exact plain special
  have printable : ¬c.toNat < 0x20 := by
    intro control
    exact plain (List.mem_cons_of_mem _ (List.mem_cons_of_mem _ (List.mem_range.mpr control)))
  simp only [escape, apart '"' (by decide), apart '\\' (by decide), apart '\x08' (by decide),
    apart '\x0c' (by decide), apart '\n' (by decide), apart '\r' (by decide),
    apart '\t' (by decide), printable, if_false]

theorem not_mem_escaped_of_begins (plain : c.toNat ∉ escaped) (front : [c] <+: escape d) :
    d.toNat ∉ escaped := by
  intro special
  rcases escape_of_mem special with ⟨rest, shape⟩
  rw [shape, List.cons_prefix_cons] at front
  rw [front.1] at plain
  exact plain (by decide)

theorem not_mem_escaped_of_begins_plain (plain : d.toNat ∉ escaped) (front : escape c <+: [d]) :
    c.toNat ∉ escaped := by
  intro special
  rcases escape_of_mem special with ⟨rest, shape⟩
  rw [shape, List.cons_prefix_cons] at front
  rw [← front.1] at plain
  exact plain (by decide)

theorem eq_of_escape_begins (front : escape c <+: escape d) : c = d := by
  by_cases special : c.toNat ∈ escaped
  · by_cases also : d.toNat ∈ escaped
    · rw [← Char.ofNat_toNat c, ← Char.ofNat_toNat d] at front
      exact Char.toNat_inj.mp (eq_of_escape_begins_escaped _ special _ also front)
    · rw [escape_of_not_mem also] at front
      exact absurd special (not_mem_escaped_of_begins_plain also front)
  · rw [escape_of_not_mem special] at front
    rw [escape_of_not_mem (not_mem_escaped_of_begins special front), List.cons_prefix_cons] at front
    exact front.1

variable {u v : List Char}

theorem escape_append_inj (same : escape c ++ u = escape d ++ v) : c = d ∧ u = v := by
  have character : c = d := by
    rcases List.prefix_or_prefix_of_prefix (List.prefix_append (escape c) u)
        (same ▸ List.prefix_append (escape d) v) with front | front
    · exact eq_of_escape_begins front
    · exact (eq_of_escape_begins front).symm
  subst character
  exact ⟨rfl, List.append_cancel_left same⟩

theorem escape_append_ne_quote (c : Char) (u v : List Char) : escape c ++ u ≠ '"' :: v := by
  intro same
  by_cases special : c.toNat ∈ escaped
  · rcases escape_of_mem special with ⟨rest, shape⟩
    simp [shape] at same
  · simp only [escape_of_not_mem special, List.singleton_append, List.cons.injEq] at same
    rw [same.1] at special
    exact special (by decide)

theorem flatMap_escape_append_inj {front other : List Char}
    (same : front.flatMap escape ++ '"' :: u = other.flatMap escape ++ '"' :: v) :
    front = other ∧ u = v := by
  induction front generalizing other with
  | nil =>
      cases other with
      | nil => exact ⟨rfl, (List.cons.inj same).2⟩
      | cons d other =>
          rw [List.flatMap_cons, List.append_assoc] at same
          exact absurd same.symm (escape_append_ne_quote d _ u)
  | cons c front ih =>
      cases other with
      | nil =>
          rw [List.flatMap_cons, List.append_assoc] at same
          exact absurd same (escape_append_ne_quote c _ v)
      | cons d other =>
          rw [List.flatMap_cons, List.flatMap_cons, List.append_assoc, List.append_assoc] at same
          rcases escape_append_inj same with ⟨rfl, behind⟩
          rcases ih behind with ⟨rfl, rest⟩
          exact ⟨rfl, rest⟩

theorem quote_append_inj {text other : String} (same : quote text ++ u = quote other ++ v) :
    text = other ∧ u = v := by
  simp only [quote, List.cons_append, List.append_assoc, List.nil_append, List.cons.injEq,
    true_and] at same
  rcases flatMap_escape_append_inj same with ⟨characters, rest⟩
  exact ⟨String.toList_inj.mp characters, rest⟩

end Strings

/-- What stands behind a scalar does not go on with digits. -/
def Delimited (rest : List Char) : Prop := ∀ c ∈ rest.head?, c.isDigit = false

section Scalars

variable {u v : List Char}

theorem takeWhile_isDigit_append (value : Nat) (ends : Delimited u) :
    (Nat.toDigits 10 value ++ u).takeWhile Char.isDigit = Nat.toDigits 10 value := by
  have none_behind : u.takeWhile Char.isDigit = [] := by
    cases u with
    | nil => rfl
    | cons c rest => simp [ends c rfl]
  rw [List.takeWhile_append_of_pos
    (fun c member => Nat.isDigit_of_mem_toDigits (by decide) (by decide) member),
    none_behind, List.append_nil]

theorem toDigits_append_inj {value other : Nat} (ends : Delimited u) (also : Delimited v)
    (same : Nat.toDigits 10 value ++ u = Nat.toDigits 10 other ++ v) : value = other ∧ u = v := by
  have digits := congrArg (List.takeWhile Char.isDigit) same
  rw [takeWhile_isDigit_append value ends, takeWhile_isDigit_append other also] at digits
  rw [digits] at same
  refine ⟨?_, List.append_cancel_left same⟩
  calc
    value = Nat.ofDigitChars 10 (Nat.toDigits 10 value) 0 := Nat.ofDigitChars_ten_toDigits.symm
    _ = Nat.ofDigitChars 10 (Nat.toDigits 10 other) 0 := by rw [digits]
    _ = other := Nat.ofDigitChars_ten_toDigits

theorem toDigits_append_ne {c : Char} (letter : c.isDigit = false) (value : Nat) :
    Nat.toDigits 10 value ++ u ≠ c :: v := by
  intro same
  cases digits : Nat.toDigits 10 value with
  | nil => exact absurd digits (by simp)
  | cons first rest =>
      have digit : first.isDigit = true := by
        apply Nat.isDigit_of_mem_toDigits (b := 10) (n := value) (by decide) (by decide)
        simp [digits]
      rw [digits, List.cons_append, List.cons.injEq] at same
      rw [same.1, letter] at digit
      cases digit

theorem scalar_append_inj {value other : JsonScalar} (ends : Delimited u) (also : Delimited v)
    (same : scalar value ++ u = scalar other ++ v) : value = other ∧ u = v := by
  cases value with
  | null =>
      cases other with
      | null => exact ⟨rfl, List.append_cancel_left same⟩
      | bool flag => cases flag <;> simp [scalar] at same
      | number value => exact absurd same.symm (toDigits_append_ne (by decide) value)
      | string text => simp [scalar, quote] at same
  | bool flag =>
      cases other with
      | null => cases flag <;> simp [scalar] at same
      | bool other => cases flag <;> cases other <;> simp_all [scalar]
      | number value => cases flag <;> exact absurd same.symm (toDigits_append_ne (by decide) value)
      | string text => cases flag <;> simp [scalar, quote] at same
  | number value =>
      cases other with
      | null => exact absurd same (toDigits_append_ne (by decide) value)
      | bool flag => cases flag <;> exact absurd same (toDigits_append_ne (by decide) value)
      | number other =>
          rcases toDigits_append_inj ends also same with ⟨rfl, rest⟩
          exact ⟨rfl, rest⟩
      | string text => exact absurd same (toDigits_append_ne (by decide) value)
  | string text =>
      cases other with
      | null => simp [scalar, quote] at same
      | bool flag => cases flag <;> simp [scalar, quote] at same
      | number value => exact absurd same.symm (toDigits_append_ne (by decide) value)
      | string other =>
          rcases quote_append_inj same with ⟨rfl, rest⟩
          exact ⟨rfl, rest⟩

theorem field_append_inj {indent : Nat} {entry other : String × JsonScalar} (ends : Delimited u)
    (also : Delimited v) (same : field indent entry ++ u = field indent other ++ v) :
    entry = other ∧ u = v := by
  simp only [field, List.append_assoc, List.append_cancel_left_eq] at same
  rcases quote_append_inj same with ⟨keys, behind⟩
  rw [List.append_cancel_left_eq] at behind
  rcases scalar_append_inj ends also behind with ⟨values, rest⟩
  exact ⟨Prod.ext keys values, rest⟩

end Scalars

section Lists

variable {α : Type} {encode : α → List Char}

/-- Texts that begin with a blank and can each be told from what stands behind them. -/
structure Readable (encode : α → List Char) : Prop where
  blank : ∀ item, ∃ rest, encode item = ' ' :: rest
  append_inj : ∀ {item other : α} {u v : List Char}, Delimited u → Delimited v →
    encode item ++ u = encode other ++ v → item = other ∧ u = v

theorem readable_field (indent : Nat) : Readable (field indent) where
  blank _ := ⟨_, rfl⟩
  append_inj := field_append_inj

theorem intercalate_cons (separator first : List Char) (rest : List (List Char)) :
    separator.intercalate (first :: rest) =
      first ++ rest.flatMap fun item => separator ++ item := by
  induction rest generalizing first with
  | nil => simp
  | cons next rest ih =>
      rw [List.intercalate_cons_cons, ih, List.flatMap_cons, List.append_assoc, List.append_assoc]

variable {u v : List Char}

def tail (encode : α → List Char) (items : List α) (rest : List Char) : List Char :=
  (items.flatMap fun item => [',', '\n'] ++ encode item) ++ '\n' :: rest

theorem tail_cons (encode : α → List Char) (item : α) (items : List α) (rest : List Char) :
    tail encode (item :: items) rest = ',' :: '\n' :: (encode item ++ tail encode items rest) := by
  simp [tail]

theorem delimited_tail (encode : α → List Char) (items : List α) (rest : List Char) :
    Delimited (tail encode items rest) := by
  cases items with
  | nil =>
      rintro c ⟨⟩
      decide
  | cons item items =>
      rw [tail_cons]
      rintro c ⟨⟩
      decide

theorem tail_inj (readable : Readable encode) {items others : List α}
    (same : tail encode items u = tail encode others v) : items = others ∧ u = v := by
  induction items generalizing others with
  | nil =>
      cases others with
      | nil => exact ⟨rfl, (List.cons.inj same).2⟩
      | cons other others => simp [tail] at same
  | cons item items ih =>
      cases others with
      | nil => simp [tail] at same
      | cons other others =>
          rw [tail_cons, tail_cons, List.cons.injEq, List.cons.injEq] at same
          rcases readable.append_inj (delimited_tail _ _ _) (delimited_tail _ _ _) same.2.2 with
            ⟨rfl, behind⟩
          rcases ih behind with ⟨rfl, rest⟩
          exact ⟨rfl, rest⟩

theorem intercalate_append_inj (readable : Readable encode) {items others : List α}
    (same : [',', '\n'].intercalate (items.map encode) ++ '\n' :: u =
      [',', '\n'].intercalate (others.map encode) ++ '\n' :: v) : items = others ∧ u = v := by
  have shape (item : α) (items : List α) (rest : List Char) :
      [',', '\n'].intercalate ((item :: items).map encode) ++ '\n' :: rest =
        encode item ++ tail encode items rest := by
    rw [List.map_cons, intercalate_cons, List.flatMap_map, List.append_assoc]
    rfl
  cases items with
  | nil =>
      cases others with
      | nil => exact ⟨rfl, (List.cons.inj same).2⟩
      | cons other others =>
          rcases readable.blank other with ⟨rest, begins⟩
          rw [shape, begins] at same
          simp at same
  | cons item items =>
      cases others with
      | nil =>
          rcases readable.blank item with ⟨rest, begins⟩
          rw [shape, begins] at same
          simp at same
      | cons other others =>
          rw [shape, shape] at same
          rcases readable.append_inj (delimited_tail _ _ _) (delimited_tail _ _ _) same with
            ⟨rfl, behind⟩
          rcases tail_inj readable behind with ⟨rfl, rest⟩
          exact ⟨rfl, rest⟩

end Lists

theorem record_append_inj {indent : Nat} {fields others : JsonRecord} {u v : List Char}
    (same : record indent fields ++ u = record indent others ++ v) : fields = others ∧ u = v := by
  simp only [record, List.append_assoc, List.cons_append, List.nil_append, List.cons.injEq,
    true_and] at same
  rcases intercalate_append_inj (readable_field indent) same with ⟨rfl, rest⟩
  have closing := List.append_cancel_left rest
  exact ⟨rfl, (List.cons.inj closing).2⟩

theorem record_inj {fields others : JsonRecord} (same : record 0 fields = record 0 others) :
    fields = others := by
  have extended : record 0 fields ++ [] = record 0 others ++ [] := by rw [same]
  exact (record_append_inj extended).1

theorem readable_record (indent : Nat) :
    Readable fun fields => blanks (indent + 1) ++ record (indent + 1) fields where
  blank _ := ⟨_, rfl⟩
  append_inj _ _ same := by
    simp only [List.append_assoc, List.append_cancel_left_eq] at same
    exact record_append_inj same

theorem rows_inj {records others : List JsonRecord} (same : rows records = rows others) :
    records = others := by
  cases records with
  | nil =>
      cases others with
      | nil => rfl
      | cons other others => simp [rows] at same
  | cons first records =>
      cases others with
      | nil => simp [rows] at same
      | cons other others =>
          simp only [rows, List.append_assoc, List.append_cancel_left_eq] at same
          exact (intercalate_append_inj (readable_record 1) same).1

end ElfTables.Json
