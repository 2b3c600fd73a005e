import PriorityPortal.DBus.Value
/-!
# Signatures

A signature reads back as the type that it was written for, so that no two types share one.
-/
namespace PriorityPortal.DBus

namespace Kind

/-- What the reading of many types makes of one more in front; a single type is read by itself. -/
def readOn (depth : Nat) (many : Bool) (kind : Kind) (rest : List Char) :
    Option (List Kind × List Char) :=
  if many then (readFrom depth true rest).map fun (kinds, rest) => (kind :: kinds, rest)
  else some ([kind], rest)

section

variable {depth : Nat} {many : Bool} {cs rest : List Char} {element key value : Kind}
  {fields : List Kind}

theorem readFrom_array (h : readFrom depth false cs = some ([element], rest)) :
    readFrom (depth + 1) many ('a' :: cs) = readOn depth many (.array element) rest := by
  rw [readFrom, h]
  rfl

theorem readFrom_struct (h : readFrom depth true cs = some (fields, ')' :: rest)) :
    readFrom (depth + 1) many ('(' :: cs) = readOn depth many (.struct fields) rest := by
  rw [readFrom, h]
  rfl

theorem readFrom_entry (h : readFrom depth true cs = some ([key, value], '\x7d' :: rest)) :
    readFrom (depth + 1) many ('\x7b' :: cs) = readOn depth many (.entry key value) rest := by
  rw [readFrom, h]
  rfl

theorem readFrom_close {close : Char} (closing : close = ')' ∨ close = '\x7d') :
    readFrom (depth + 1) true (close :: rest) = some ([], close :: rest) := by
  rcases closing with rfl | rfl <;> rfl

end

theorem length_pos (kind : Kind) : 0 < kind.text.toList.length := by
  cases kind <;> simp [text]

/-- All signatures read back that are no longer than the depth allows. -/
structure ReadsAt (depth : Nat) : Prop where
  one : ∀ (kind : Kind) (many : Bool) (rest : List Char), kind.text.toList.length ≤ depth + 1 →
    readFrom (depth + 1) many (kind.text.toList ++ rest) = readOn depth many kind rest
  many : ∀ (kinds : List Kind) (close : Char) (rest : List Char), close = ')' ∨ close = '\x7d' →
    (textAll kinds).toList.length ≤ depth →
      readFrom (depth + 1) true ((textAll kinds).toList ++ close :: rest) =
        some (kinds, close :: rest)

theorem read_one {depth : Nat} (ih : ∀ d < depth, ReadsAt d) (kind : Kind) (many : Bool)
    (rest : List Char) (deep : kind.text.toList.length ≤ depth + 1) :
    readFrom (depth + 1) many (kind.text.toList ++ rest) = readOn depth many kind rest := by
  cases kind with
  | array element =>
    have hsome := element.length_pos
    have htext : (array element).text.toList = 'a' :: element.text.toList := by simp [text]
    rw [htext, List.length_cons] at deep
    obtain ⟨depth, rfl⟩ : ∃ d, depth = d + 1 := ⟨depth - 1, by omega⟩
    have hread := (ih depth (Nat.lt_succ_self _)).one element false rest (by omega)
    rw [htext, List.cons_append]
    exact readFrom_array hread
  | struct fields =>
    have htext : (struct fields).text.toList = '(' :: (textAll fields).toList ++ [')'] := by
      simp [text]
    rw [htext, List.length_append, List.length_cons, List.length_singleton] at deep
    obtain ⟨depth, rfl⟩ : ∃ d, depth = d + 1 := ⟨depth - 1, by omega⟩
    have hread := (ih depth (Nat.lt_succ_self _)).many fields ')' rest (.inl rfl) (by omega)
    rw [htext, List.append_assoc, List.cons_append]
    exact readFrom_struct hread
  | entry key value =>
    have htext : (entry key value).text.toList =
        '\x7b' :: (textAll [key, value]).toList ++ ['\x7d'] := by
      simp [text, textAll]
    rw [htext, List.length_append, List.length_cons, List.length_singleton] at deep
    obtain ⟨depth, rfl⟩ : ∃ d, depth = d + 1 := ⟨depth - 1, by omega⟩
    have hread := (ih depth (Nat.lt_succ_self _)).many [key, value] '\x7d' rest (.inr rfl)
      (by omega)
    rw [htext, List.append_assoc, List.cons_append]
    exact readFrom_entry hread
  | _ => simp [text, readFrom, readOn, ofLetter?]

theorem readsAt (depth : Nat) : ReadsAt depth := by
  -- The depth goes down with every type read, whether it stands inside or behind another.
  induction depth using Nat.strongRecOn with
  | ind depth ih =>
    refine ⟨read_one ih, fun kinds close rest closing deep => ?_⟩
    cases kinds with
    | nil => exact readFrom_close closing
    | cons kind kinds =>
      have hsome := kind.length_pos
      have htext : (textAll (kind :: kinds)).toList =
          kind.text.toList ++ (textAll kinds).toList := by
        simp [textAll]
      rw [htext, List.length_append] at deep
      have hone := read_one ih kind true ((textAll kinds).toList ++ close :: rest) (by omega)
      obtain ⟨depth, rfl⟩ : ∃ d, depth = d + 1 := ⟨depth - 1, by omega⟩
      have hread := (ih depth (Nat.lt_succ_self _)).many kinds close rest closing (by omega)
      rw [htext, List.append_assoc, hone]
      simp [readOn, hread]

theorem ofText?_text (kind : Kind) : ofText? kind.text = some kind := by
  have hread := (readsAt (kind.text.length + 1)).one kind false [] (by
    rw [String.length_toList]
    omega)
  rw [List.append_nil] at hread
  rw [ofText?, hread]
  rfl

theorem text_injective {kind other : Kind} (h : kind.text = other.text) : kind = other :=
  Option.some.inj ((ofText?_text kind).symm.trans (h ▸ ofText?_text other))

end Kind

mutual

/-- The type of a value. An array has its type from its items, or has it if there are none. -/
inductive Value.HasKind : Value → Kind → Prop where
  | byte (n : UInt8) : HasKind (.byte n) .byte
  | boolean (b : Bool) : HasKind (.boolean b) .boolean
  | int16 (n : Int16) : HasKind (.int16 n) .int16
  | uint16 (n : UInt16) : HasKind (.uint16 n) .uint16
  | int32 (n : Int32) : HasKind (.int32 n) .int32
  | uint32 (n : UInt32) : HasKind (.uint32 n) .uint32
  | int64 (n : Int64) : HasKind (.int64 n) .int64
  | uint64 (n : UInt64) : HasKind (.uint64 n) .uint64
  | double (x : Binary64) : HasKind (.double x) .double
  | string (s : String) : HasKind (.string s) .string
  | path (s : String) : HasKind (.path s) .path
  | signature (s : String) : HasKind (.signature s) .signature
  | variant {inner : Value} {kind : Kind} (held : HasKind inner kind) :
      HasKind (.variant inner) .variant
  | array {element : Kind} {items : List Value} (held : ∀ item ∈ items, HasKind item element) :
      HasKind (.array element items) (.array element)
  | struct {fields : List Value} {kinds : List Kind} (held : HaveKinds fields kinds) :
      HasKind (.struct fields) (.struct kinds)
  | entry {key value : Value} {first second : Kind} (heldKey : HasKind key first)
      (heldValue : HasKind value second) : HasKind (.entry key value) (.entry first second)

inductive Value.HaveKinds : List Value → List Kind → Prop where
  | nil : HaveKinds [] []
  | cons {value : Value} {kind : Kind} {rest : List Value} {kinds : List Kind}
      (first : HasKind value kind) (others : HaveKinds rest kinds) :
      HaveKinds (value :: rest) (kind :: kinds)

end

namespace Value

mutual

theorem HasKind.kind_eq {value : Value} {type : Kind} : value.HasKind type → value.kind = type
  | .byte _ | .boolean _ | .int16 _ | .uint16 _ | .int32 _ | .uint32 _ | .int64 _ | .uint64 _
  | .double _ | .string _ | .path _ | .signature _ | .variant _ | .array _ => rfl
  | .struct held => by rw [kind, held.kinds_eq]
  | .entry heldKey heldValue => by rw [kind, heldKey.kind_eq, heldValue.kind_eq]

theorem HaveKinds.kinds_eq {values : List Value} {all : List Kind} :
    HaveKinds values all → kinds values = all
  | .nil => rfl
  | .cons first others => by rw [kinds, first.kind_eq, others.kinds_eq]

end

end Value

end PriorityPortal.DBus
