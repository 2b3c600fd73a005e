import PriorityPortal.Number.Binary64
/-!
# TOML values

A document is a table: names with their values, in the order in which they were given.
-/
namespace PriorityPortal.Toml

inductive Value where
  | string (s : String)
  | integer (n : Int64)
  | float (x : Binary64)
  | boolean (b : Bool)
  /-- A date, a time or both, as it was written. -/
  | datetime (text : String)
  | array (items : List Value)
  | table (entries : List (String × Value))
  deriving Repr

abbrev Table := List (String × Value)

-- Values hold lists of values, for which equality is not derived.
mutual

def Value.same : Value → Value → Bool
  | .string s, .string t => s = t
  | .integer m, .integer n => m = n
  | .float x, .float y => x = y
  | .boolean b, .boolean c => b = c
  | .datetime s, .datetime t => s = t
  | .array items, .array others => sameItems items others
  | .table entries, .table others => sameEntries entries others
  | _, _ => false

def sameItems : List Value → List Value → Bool
  | [], [] => true
  | v :: items, w :: others => v.same w && sameItems items others
  | _, _ => false

def sameEntries : Table → Table → Bool
  | [], [] => true
  | (name, v) :: entries, (other, w) :: others =>
    name = other && (v.same w && sameEntries entries others)
  | _, _ => false

end

mutual

theorem Value.same_iff (v w : Value) : v.same w = true ↔ v = w := by
  match v with
  | .array items => cases w <;> simp [Value.same, sameItems_iff items]
  | .table entries => cases w <;> simp [Value.same, sameEntries_iff entries]
  | .string _ | .integer _ | .float _ | .boolean _ | .datetime _ => cases w <;> simp [Value.same]

theorem sameItems_iff (items others : List Value) :
    sameItems items others = true ↔ items = others := by
  match items with
  | [] => cases others <;> simp [sameItems]
  | v :: items => cases others <;> simp [sameItems, Value.same_iff v, sameItems_iff items]

theorem sameEntries_iff (entries others : Table) :
    sameEntries entries others = true ↔ entries = others := by
  match entries with
  | [] => cases others <;> simp [sameEntries]
  | (name, v) :: entries =>
    cases others <;>
      simp [sameEntries, Value.same_iff v, sameEntries_iff entries, Prod.ext_iff, and_assoc]

end

instance : DecidableEq Value := fun v w => decidable_of_iff _ (v.same_iff w)

end PriorityPortal.Toml
