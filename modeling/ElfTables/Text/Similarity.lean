/-!
How alike two words are. Equal letters that stand near each other are paired; the measure is the
mean of three shares: the paired letters of either word, and the pairs that are in order.
-/
namespace ElfTables.Similarity

def reach (left right : List Char) : Nat := max left.length right.length / 2 - 1

abbrev Pairs := List (Nat × Nat)

def partner? (limit : Nat) (right : List Char) (pairs : Pairs) (letter : Char) (place : Nat) :
    Option Nat :=
  (List.range right.length).find? fun other =>
    place ≤ other + limit && other ≤ place + limit && right[other]? = some letter &&
      pairs.all fun pair => pair.2 ≠ other

/-- Pairs letters from the first on; the result has the last pair first. -/
def paired (left right : List Char) : Pairs :=
  left.zipIdx.foldl (fun pairs (letter, place) =>
    match partner? (reach left right) right pairs letter place with
    | some other => (place, other) :: pairs
    | none => pairs) []

def kept (word : List Char) (places : List Nat) : List Char :=
  (word.zipIdx.filter fun (_, place) => places.contains place).map Prod.fst

def transpositions (left right : List Char) (pairs : Pairs) : Nat :=
  let letters := List.zip (kept left (pairs.map Prod.fst)) (kept right (pairs.map Prod.snd))
  (letters.filter fun (one, other) => one ≠ other).length / 2

def measure (left right : List Char) : Rat :=
  let pairs := paired left right
  let count : Rat := pairs.length
  let ordered : Rat := pairs.length - transpositions left right pairs
  if left.isEmpty && right.isEmpty then 1
  else (count / left.length + count / right.length + ordered / count) / 3

def areAlike (left right : String) : Bool := 7 / 10 ≤ measure left.toList right.toList

end ElfTables.Similarity
