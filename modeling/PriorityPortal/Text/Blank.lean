/-!
# Blank characters

Text is trimmed and cut into words at the characters with the Unicode property White_Space.
-/
namespace PriorityPortal.Text

def isBlank (c : Char) : Bool :=
  let n := c.toNat
  (0x09 ≤ n && n ≤ 0x0D) || n == 0x20 || n == 0x85 || n == 0xA0 || n == 0x1680 ||
    (0x2000 ≤ n && n ≤ 0x200A) || n == 0x2028 || n == 0x2029 || n == 0x202F || n == 0x205F ||
    n == 0x3000

def trimEnd (cs : List Char) : List Char := (cs.reverse.dropWhile isBlank).reverse

def trim (cs : List Char) : List Char := trimEnd (cs.dropWhile isBlank)

/-- The stretches between the elements that satisfy `p`, empty ones included. -/
def splitBy {α : Type} (p : α → Bool) (xs : List α) : List (List α) :=
  xs.foldr (fun x pieces =>
    if p x then [] :: pieces
    else match pieces with
      | [] => [[x]]
      | piece :: rest => (x :: piece) :: rest) [[]]

def words (cs : List Char) : List (List Char) :=
  (splitBy isBlank cs).filter (fun word => !word.isEmpty)

@[simp] theorem splitBy_nil {α : Type} (p : α → Bool) : splitBy p [] = [[]] := rfl

theorem splitBy_cons_of_pos {α : Type} {p : α → Bool} {x : α} (h : p x = true) (xs : List α) :
    splitBy p (x :: xs) = [] :: splitBy p xs := by
  simp [splitBy, h]

theorem splitBy_ne_nil {α : Type} (p : α → Bool) (xs : List α) : splitBy p xs ≠ [] := by
  cases xs with
  | nil => simp
  | cons x xs =>
    unfold splitBy
    rw [List.foldr_cons]
    split
    · simp
    · split <;> simp

end PriorityPortal.Text
