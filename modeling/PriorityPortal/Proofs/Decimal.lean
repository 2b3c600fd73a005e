import Mathlib.Data.List.Forall2
import PriorityPortal.Text.Decimal
/-!
# Decimals are read back

A number is read from exactly the numerals that stand for it, up to the largest word, and so from
the digits that it is written with.
-/
namespace PriorityPortal.Text

/-- Decimal digits, at least one, with a plus sign in front or not, that stand for this number. -/
def Numeral (cs : List Char) (n : Nat) : Prop :=
  ∃ digits, (cs = digits ∨ cs = '+' :: digits) ∧ digits ≠ [] ∧
    (∀ c ∈ digits, c.isDigit = true) ∧ n = Nat.ofDigitChars 10 digits 0

theorem mapM_eq_some_iff {α β : Type} {f : α → Option β} {xs : List α} {ys : List β} :
    xs.mapM f = some ys ↔ List.Forall₂ (fun x y => f x = some y) xs ys := by
  induction xs generalizing ys with
  | nil =>
    rw [List.mapM_nil, List.forall₂_nil_left_iff]
    exact Option.some_inj.trans eq_comm
  | cons x xs ih =>
    rw [List.mapM_cons, List.forall₂_cons_left_iff]
    simp only [Option.bind_eq_bind, Option.bind_eq_some_iff, ih]
    constructor
    · rintro ⟨y, hy, rest, hrest, heq⟩
      exact ⟨y, rest, hy, hrest, (Option.some.inj heq).symm⟩
    · rintro ⟨y, rest, hy, hrest, rfl⟩
      exact ⟨y, hy, rest, hrest, rfl⟩

theorem exists_of_forall₂ {α β : Type} {R : α → β → Prop} {xs : List α} {ys : List β}
    (h : List.Forall₂ R xs ys) : ∀ x ∈ xs, ∃ y, R x y := by
  induction h with
  | nil => exact List.forall_mem_nil _
  | cons hxy _ ih => exact List.forall_mem_cons.mpr ⟨⟨_, hxy⟩, ih⟩

theorem digit_of_isDigit {c : Char} (h : c.isDigit) : digit? c = some (c.toNat - '0'.toNat) := by
  have hc : '0' ≤ c ∧ c ≤ '9' := by
    simpa [Char.isDigit, Char.le_def] using h
  simp [digit?, hc]

theorem isDigit_of_digit {c : Char} {n : Nat} (h : digit? c = some n) : c.isDigit := by
  unfold digit? at h
  split at h
  next hc => simpa [Char.isDigit, Char.le_def] using hc
  next => cases h

theorem mapM_digit {cs : List Char} (h : ∀ c ∈ cs, c.isDigit) :
    cs.mapM digit? = some (cs.map fun c => c.toNat - '0'.toNat) := by
  rw [mapM_eq_some_iff, List.forall₂_map_right_iff, List.forall₂_same]
  exact fun c hc => digit_of_isDigit (h c hc)

theorem isDigit_of_mapM {cs : List Char} {ns : List Nat} (h : cs.mapM digit? = some ns) :
    ∀ c ∈ cs, c.isDigit := by
  intro c hc
  obtain ⟨n, hn⟩ := exists_of_forall₂ (mapM_eq_some_iff.mp h) c hc
  exact isDigit_of_digit hn

theorem digits_of_isDigit {cs : List Char} (hne : cs ≠ []) (h : ∀ c ∈ cs, c.isDigit) :
    digits? cs = some (Nat.ofDigitChars 10 cs 0) := by
  have hz : cs.isEmpty = false := by simpa using hne
  simp [digits?, hz, mapM_digit h, ofDigits, List.foldl_map, Nat.ofDigitChars_eq_foldl]

theorem digits_iff {cs : List Char} {n : Nat} : digits? cs = some n ↔
    cs ≠ [] ∧ (∀ c ∈ cs, c.isDigit) ∧ n = Nat.ofDigitChars 10 cs 0 := by
  constructor
  · intro h
    have hread := h
    unfold digits? at hread
    split at hread
    next => cases hread
    next hsome =>
      obtain ⟨ns, hns, -⟩ := Option.map_eq_some_iff.mp hread
      have hne : cs ≠ [] := by simpa using hsome
      rw [digits_of_isDigit hne (isDigit_of_mapM hns)] at h
      exact ⟨hne, isDigit_of_mapM hns, (Option.some.inj h).symm⟩
  · rintro ⟨hne, hdigits, rfl⟩
    exact digits_of_isDigit hne hdigits

theorem natural_iff {cs : List Char} {n : Nat} : natural? cs = some n ↔ Numeral cs n := by
  unfold natural?
  split
  next digits =>
    rw [digits_iff]
    constructor
    · exact fun h => ⟨digits, Or.inr rfl, h⟩
    · rintro ⟨_, rfl | heq, h⟩
      · exact absurd (h.2.1 '+' List.mem_cons_self) (by decide)
      · exact (List.cons.inj heq).2 ▸ h
  next hplus =>
    rw [digits_iff]
    constructor
    · exact fun h => ⟨cs, Or.inl rfl, h⟩
    · rintro ⟨_, rfl | rfl, h⟩
      · exact h
      · exact absurd rfl (hplus _)

theorem uint64_iff {cs : List Char} {n : UInt64} : uint64? cs = some n ↔ Numeral cs n.toNat := by
  rw [uint64?, Option.bind_eq_some_iff]
  constructor
  · rintro ⟨value, hvalue, h⟩
    split at h
    next hsize =>
      obtain rfl := Option.some.inj h
      rw [UInt64.toNat_ofNat_of_lt' hsize]
      exact natural_iff.mp hvalue
    next => cases h
  · intro h
    refine ⟨n.toNat, natural_iff.mpr h, ?_⟩
    rw [if_pos n.toNat_lt_size, UInt64.ofNat_toNat]

theorem isDigit_of_mem_decimal {n : Nat} {c : Char} (h : c ∈ decimal n) : c.isDigit :=
  Nat.isDigit_of_mem_toDigits (by decide) (by decide) h

theorem numeral_decimal (n : Nat) : Numeral (decimal n) n :=
  ⟨decimal n, Or.inl rfl, Nat.toDigits_ne_nil, fun _ => isDigit_of_mem_decimal,
    Nat.ofDigitChars_ten_toDigits.symm⟩

theorem uint64_toString (n : UInt64) : uint64? (toString n).toList = some n := by
  have hs : (toString n).toList = decimal n.toNat := Nat.toList_repr
  rw [hs, uint64_iff]
  exact numeral_decimal n.toNat

end PriorityPortal.Text
