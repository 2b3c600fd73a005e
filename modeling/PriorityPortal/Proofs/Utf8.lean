import PriorityPortal.Text.Utf8
/-!
# Encoded text

Bytes read as a text just if they are its encoding, so that damage anywhere makes them no text.
-/
namespace PriorityPortal.Text

theorem encode_ofList (cs : List Char) :
    encode (String.ofList cs) = cs.flatMap String.utf8EncodeChar := by
  rw [encode, String.toUTF8_eq_toByteArray, String.toByteArray_ofList]
  simp [List.utf8Encode]

/-- The first bytes of characters of more than one byte: what they add to the bits they hold, and
how many bytes come after the second. -/
inductive Lead (byte : UInt8) : Nat → Nat → Prop where
  | two (least : 0xC2 ≤ byte.toNat) (greatest : byte.toNat ≤ 0xDF) : Lead byte 0xC0 0
  | three (least : 0xE0 ≤ byte.toNat) (greatest : byte.toNat ≤ 0xEF) : Lead byte 0xE0 1
  | four (least : 0xF0 ≤ byte.toNat) (greatest : byte.toNat ≤ 0xF4) : Lead byte 0xF0 2

/-- A byte that may come second. Shorter forms, surrogates and what lies above all characters are
kept out here. -/
structure Second (lead byte : UInt8) : Prop where
  least : 0x80 ≤ byte.toNat
  greatest : byte.toNat ≤ 0xBF
  longThree : lead.toNat = 0xE0 → 0xA0 ≤ byte.toNat
  surrogate : lead.toNat = 0xED → byte.toNat ≤ 0x9F
  longFour : lead.toNat = 0xF0 → 0x90 ≤ byte.toNat
  above : lead.toNat = 0xF4 → byte.toNat ≤ 0x8F

namespace Pending

variable {byte : UInt8}

theorem start_one (h : byte.toNat < 0x80) (found : List Piece) :
    start byte found = (none, .char (Char.ofNat byte.toNat) :: found) := by
  have hlt : byte < 0x80 := UInt8.lt_iff_toNat_lt.mpr h
  simp only [start, if_pos hlt]

theorem second_of_range {lead least greatest : UInt8}
    (hl : ∀ n, least.toNat ≤ n ∧ n ≤ greatest.toNat ↔ 0x80 ≤ n ∧ n ≤ 0xBF ∧
      (lead.toNat = 0xE0 → 0xA0 ≤ n) ∧ (lead.toNat = 0xED → n ≤ 0x9F) ∧
      (lead.toNat = 0xF0 → 0x90 ≤ n) ∧ (lead.toNat = 0xF4 → n ≤ 0x8F)) (next : UInt8) :
    least ≤ next ∧ next ≤ greatest ↔ Second lead next := by
  rw [UInt8.le_iff_toNat_le, UInt8.le_iff_toNat_le, hl]
  constructor
  · rintro ⟨h1, h2, h3, h4, h5, h6⟩
    exact ⟨h1, h2, h3, h4, h5, h6⟩
  · rintro ⟨h1, h2, h3, h4, h5, h6⟩
    exact ⟨h1, h2, h3, h4, h5, h6⟩

theorem start_lead {base more : Nat} (h : Lead byte base more) (found : List Piece) :
    ∃ least greatest, start byte found = (some ⟨byte.toNat - base, least, greatest, more⟩, found) ∧
      ∀ next, least ≤ next ∧ next ≤ greatest ↔ Second byte next := by
  simp only [start, lead?, UInt8.lt_iff_toNat_lt, UInt8.le_iff_toNat_le, ← UInt8.toNat_inj,
    UInt8.reduceToNat]
  cases h with
  | two least greatest =>
    rw [if_neg (by omega), if_neg (by omega), if_pos greatest]
    refine ⟨_, _, rfl, second_of_range ?_⟩
    simp only [UInt8.reduceToNat]
    omega
  | three least greatest =>
    rw [if_neg (by omega), if_neg (by omega), if_neg (by omega)]
    by_cases hlong : byte.toNat = 0xE0
    · rw [if_pos hlong]
      refine ⟨_, _, rfl, second_of_range ?_⟩
      simp only [UInt8.reduceToNat]
      omega
    by_cases hsurrogate : byte.toNat = 0xED
    · rw [if_neg hlong, if_pos hsurrogate]
      refine ⟨_, _, rfl, second_of_range ?_⟩
      simp only [UInt8.reduceToNat]
      omega
    · rw [if_neg hlong, if_neg hsurrogate, if_pos greatest]
      refine ⟨_, _, rfl, second_of_range ?_⟩
      simp only [UInt8.reduceToNat]
      omega
  | four least greatest =>
    rw [if_neg (by omega), if_neg (by omega), if_neg (by omega), if_neg (by omega),
      if_neg (by omega), if_neg (by omega)]
    by_cases hlong : byte.toNat = 0xF0
    · rw [if_pos hlong]
      refine ⟨_, _, rfl, second_of_range ?_⟩
      simp only [UInt8.reduceToNat]
      omega
    by_cases hbelow : byte.toNat ≤ 0xF3
    · rw [if_neg hlong, if_pos hbelow]
      refine ⟨_, _, rfl, second_of_range ?_⟩
      simp only [UInt8.reduceToNat]
      omega
    · rw [if_neg hlong, if_neg hbelow, if_pos (by omega)]
      refine ⟨_, _, rfl, second_of_range ?_⟩
      simp only [UInt8.reduceToNat]
      omega

theorem start_damage (h : 0x80 ≤ byte.toNat) (hn : ∀ base more, ¬ Lead byte base more)
    (found : List Piece) : start byte found = (none, .damage :: found) := by
  have h2 : ¬ (0xC2 ≤ byte.toNat ∧ byte.toNat ≤ 0xDF) := fun hb => hn _ _ (.two hb.1 hb.2)
  have h3 : ¬ (0xE0 ≤ byte.toNat ∧ byte.toNat ≤ 0xEF) := fun hb => hn _ _ (.three hb.1 hb.2)
  have h4 : ¬ (0xF0 ≤ byte.toNat ∧ byte.toNat ≤ 0xF4) := fun hb => hn _ _ (.four hb.1 hb.2)
  simp only [start, lead?, UInt8.lt_iff_toNat_lt, UInt8.le_iff_toNat_le, ← UInt8.toNat_inj,
    UInt8.reduceToNat]
  rw [if_neg (by omega)]
  by_cases hlow : byte.toNat < 0xC2
  · rw [if_pos hlow]
  · rw [if_neg hlow, if_neg (by omega), if_neg (by omega), if_neg (by omega), if_neg (by omega),
      if_neg (by omega), if_neg (by omega), if_neg (by omega)]

end Pending

def Tail (byte : UInt8) : Prop := 0x80 ≤ byte.toNat ∧ byte.toNat ≤ 0xBF

inductive Sequence : List UInt8 → Nat → Prop where
  | one {a : UInt8} (h : a.toNat < 0x80) : Sequence [a] a.toNat
  | two {a b : UInt8} (lead : Lead a 0xC0 0) (second : Second a b) :
      Sequence [a, b] ((a.toNat - 0xC0) * 64 + (b.toNat - 0x80))
  | three {a b c : UInt8} (lead : Lead a 0xE0 1) (second : Second a b) (third : Tail c) :
      Sequence [a, b, c]
        (((a.toNat - 0xE0) * 64 + (b.toNat - 0x80)) * 64 + (c.toNat - 0x80))
  | four {a b c d : UInt8} (lead : Lead a 0xF0 2) (second : Second a b) (third : Tail c)
      (fourth : Tail d) :
      Sequence [a, b, c, d]
        ((((a.toNat - 0xF0) * 64 + (b.toNat - 0x80)) * 64 + (c.toNat - 0x80)) * 64 +
          (d.toNat - 0x80))

theorem toNat_byte {n : Nat} (h : n < 256) : (UInt8.ofNat n).toNat = n :=
  UInt8.toNat_ofNat_of_lt' h

section

variable {a b c d : UInt8} {n : Nat}

theorem sequence_two (h : 0x7F < n ∧ n ≤ 0x7FF) (ha : a.toNat = n / 64 % 0x20 + 0xC0)
    (hb : b.toNat = n % 0x40 + 0x80) : Sequence [a, b] n := by
  have hn : n = (a.toNat - 0xC0) * 64 + (b.toNat - 0x80) := by omega
  have hs : Second a b := by constructor <;> omega
  rw [hn]
  exact .two (.two (by omega) (by omega)) hs

theorem sequence_three (h : 0x7FF < n ∧ n ≤ 0xFFFF) (hn : ¬ (0xD800 ≤ n ∧ n ≤ 0xDFFF))
    (ha : a.toNat = n / 4096 % 0x10 + 0xE0) (hb : b.toNat = n / 64 % 0x40 + 0x80)
    (hc : c.toNat = n % 0x40 + 0x80) : Sequence [a, b, c] n := by
  have hn : n = ((a.toNat - 0xE0) * 64 + (b.toNat - 0x80)) * 64 + (c.toNat - 0x80) := by omega
  have hs : Second a b := by constructor <;> omega
  have ht : Tail c := by
    unfold Tail
    omega
  rw [hn]
  exact .three (.three (by omega) (by omega)) hs ht

theorem sequence_four (h : 0xFFFF < n ∧ n < 0x110000) (ha : a.toNat = n / 262144 % 0x08 + 0xF0)
    (hb : b.toNat = n / 4096 % 0x40 + 0x80) (hc : c.toNat = n / 64 % 0x40 + 0x80)
    (hd : d.toNat = n % 0x40 + 0x80) : Sequence [a, b, c, d] n := by
  have hn : n = (((a.toNat - 0xF0) * 64 + (b.toNat - 0x80)) * 64 + (c.toNat - 0x80)) * 64 +
      (d.toNat - 0x80) := by omega
  have hs : Second a b := by constructor <;> omega
  have ht : Tail c ∧ Tail d := by
    unfold Tail
    omega
  rw [hn]
  exact .four (.four (by omega) (by omega)) hs ht.1 ht.2

theorem sequence_utf8EncodeChar (c : Char) : Sequence (String.utf8EncodeChar c) c.toNat := by
  have hvalid : c.val.toNat < 0xD800 ∨ 0xDFFF < c.val.toNat ∧ c.val.toNat < 0x110000 := c.valid
  change Sequence (String.utf8EncodeChar c) c.val.toNat
  unfold String.utf8EncodeChar
  generalize c.val.toNat = n at hvalid ⊢
  by_cases h1 : n ≤ 0x7F
  · have hbyte : (UInt8.ofNat n).toNat = n := toNat_byte (by omega)
    have hone : Sequence [UInt8.ofNat n] (UInt8.ofNat n).toNat := .one (by omega)
    rw [hbyte] at hone
    simpa only [if_pos h1] using hone
  by_cases h2 : n ≤ 0x7FF
  · simp only [if_neg h1, if_pos h2]
    exact sequence_two (by omega) (toNat_byte (by omega)) (toNat_byte (by omega))
  by_cases h3 : n ≤ 0xFFFF
  · simp only [if_neg h1, if_neg h2, if_pos h3]
    exact sequence_three (by omega) (by omega) (toNat_byte (by omega)) (toNat_byte (by omega))
      (toNat_byte (by omega))
  · simp only [if_neg h1, if_neg h2, if_neg h3]
    exact sequence_four (by omega) (toNat_byte (by omega)) (toNat_byte (by omega))
      (toNat_byte (by omega)) (toNat_byte (by omega))

end

theorem ofNat_eq_byte {n : Nat} {byte : UInt8} (h : n = byte.toNat) : UInt8.ofNat n = byte := by
  rw [h, UInt8.ofNat_toNat]

theorem code_of_sequence {bytes : List UInt8} {n : Nat} (h : Sequence bytes n) :
    (Char.ofNat n).val.toNat = n := by
  have hvalid : n.isValidChar := by
    unfold Nat.isValidChar
    cases h with
    | one h => omega
    | two lead second =>
      cases lead
      cases second
      omega
    | three lead second third =>
      cases lead
      cases second
      cases third
      omega
    | four lead second third fourth =>
      cases lead
      cases second
      cases third
      cases fourth
      omega
  have hchar : Char.ofNat n = Char.ofNatAux n hvalid := dif_pos hvalid
  rw [hchar]
  rfl

/-- A character is encoded by any bytes that stand for it. -/
theorem utf8EncodeChar_of_sequence {bytes : List UInt8} {n : Nat} (h : Sequence bytes n) :
    String.utf8EncodeChar (Char.ofNat n) = bytes := by
  have hcode := code_of_sequence h
  unfold String.utf8EncodeChar
  rw [hcode]
  cases h with
  | one h =>
    simp only [if_pos (Nat.le_of_lt_succ h), UInt8.ofNat_toNat]
  | two lead second =>
    cases lead
    cases second
    simp only []
    rw [if_neg (by omega), if_pos (by omega), ofNat_eq_byte, ofNat_eq_byte]
    all_goals omega
  | three lead second third =>
    cases lead
    cases second
    cases third
    simp only []
    rw [if_neg (by omega), if_neg (by omega), if_pos (by omega), ofNat_eq_byte, ofNat_eq_byte,
      ofNat_eq_byte]
    all_goals omega
  | four lead second third fourth =>
    cases lead
    cases second
    cases third
    cases fourth
    simp only []
    rw [if_neg (by omega), if_neg (by omega), if_neg (by omega), ofNat_eq_byte, ofNat_eq_byte,
      ofNat_eq_byte, ofNat_eq_byte]
    all_goals omega

namespace Pending

variable {p : Pending} {byte : UInt8}

theorem next_last (hmore : p.more = 0) (h : p.least ≤ byte ∧ byte ≤ p.greatest)
    (found : List Piece) :
    p.next byte found =
      (none, .char (Char.ofNat (p.bits * 64 + (byte.toNat - 0x80))) :: found) := by
  simp only [next, if_pos h, hmore]

theorem next_more {more : Nat} (hmore : p.more = more + 1)
    (h : p.least ≤ byte ∧ byte ≤ p.greatest) (found : List Piece) :
    p.next byte found = (some ⟨p.bits * 64 + (byte.toNat - 0x80), 0x80, 0xBF, more⟩, found) := by
  simp only [next, if_pos h, hmore]

theorem tail_iff (byte : UInt8) : (0x80 : UInt8) ≤ byte ∧ byte ≤ 0xBF ↔ Tail byte := by
  rw [UInt8.le_iff_toNat_le, UInt8.le_iff_toNat_le]
  exact Iff.rfl

end Pending

/-- The bytes that stand for a character are cut off as one piece. -/
theorem cut_sequence {bytes : List UInt8} {n : Nat} (h : Sequence bytes n) (found : List Piece)
    (rest : List UInt8) :
    cut none found (bytes ++ rest) = cut none (.char (Char.ofNat n) :: found) rest := by
  cases h with
  | one h => simp only [List.cons_append, List.nil_append, cut, Pending.start_one h]
  | two lead second =>
    obtain ⟨least, greatest, hstart, hsecond⟩ := Pending.start_lead lead found
    have hb := (hsecond _).mpr second
    simp only [List.cons_append, List.nil_append, cut, hstart]
    rw [Pending.next_last rfl hb]
  | three lead second third =>
    obtain ⟨least, greatest, hstart, hsecond⟩ := Pending.start_lead lead found
    have hb := (hsecond _).mpr second
    have hc := (Pending.tail_iff _).mpr third
    simp only [List.cons_append, List.nil_append, cut, hstart]
    rw [Pending.next_more rfl hb]
    simp only [cut]
    rw [Pending.next_last rfl hc]
  | four lead second third fourth =>
    obtain ⟨least, greatest, hstart, hsecond⟩ := Pending.start_lead lead found
    have hb := (hsecond _).mpr second
    have hc := (Pending.tail_iff _).mpr third
    have hd := (Pending.tail_iff _).mpr fourth
    simp only [List.cons_append, List.nil_append, cut, hstart]
    rw [Pending.next_more rfl hb]
    simp only [cut]
    rw [Pending.next_more rfl hc]
    simp only [cut]
    rw [Pending.next_last rfl hd]

theorem cut_chars (cs : List Char) (found : List Piece) :
    cut none found (cs.flatMap String.utf8EncodeChar) = found.reverse ++ cs.map .char := by
  induction cs generalizing found with
  | nil => simp [cut]
  | cons c cs ih =>
    rw [List.flatMap_cons, cut_sequence (sequence_utf8EncodeChar c), Char.ofNat_toNat, ih]
    simp

theorem cut_cons_none (found : List Piece) (byte : UInt8) (bytes : List UInt8) :
    cut none found (byte :: bytes) =
      cut (Pending.start byte found).1 (Pending.start byte found).2 bytes := rfl

theorem cut_cons_some (p : Pending) (found : List Piece) (byte : UInt8) (bytes : List UInt8) :
    cut (some p) found (byte :: bytes) =
      cut (p.next byte found).1 (p.next byte found).2 bytes := rfl

theorem Pending.damage_mem_start (byte : UInt8) {found : List Piece} (h : .damage ∈ found) :
    .damage ∈ (start byte found).2 := by
  unfold start
  split
  · exact List.mem_cons_of_mem _ h
  · split
    · exact List.mem_cons_self
    · exact h

theorem Pending.damage_mem_next (p : Pending) (byte : UInt8) {found : List Piece}
    (h : .damage ∈ found) : .damage ∈ (p.next byte found).2 := by
  unfold Pending.next
  split
  · cases p.more with
    | zero => exact List.mem_cons_of_mem _ h
    | succ more => exact h
  · exact damage_mem_start byte (List.mem_cons_of_mem _ h)

theorem damage_mem_cut {state : Option Pending} {found : List Piece} (bytes : List UInt8)
    (h : .damage ∈ found) : .damage ∈ cut state found bytes := by
  induction bytes generalizing state found with
  | nil => cases state <;> simp [cut, h]
  | cons byte bytes ih =>
    cases state with
    | none =>
      rw [cut_cons_none]
      exact ih (Pending.damage_mem_start byte h)
    | some p =>
      rw [cut_cons_some]
      exact ih (p.damage_mem_next byte h)

section

variable {found : List Piece} {bytes : List UInt8}

/-- Without damage, the next byte of a character is one that may stand there. -/
theorem next_of_undamaged {p : Pending} (h : .damage ∉ cut (some p) found bytes) :
    ∃ byte rest, bytes = byte :: rest ∧ p.least ≤ byte ∧ byte ≤ p.greatest := by
  cases bytes with
  | nil => simp [cut] at h
  | cons byte rest =>
    refine ⟨byte, rest, rfl, Decidable.byContradiction fun hout => h ?_⟩
    rw [cut_cons_some, Pending.next, if_neg hout]
    exact damage_mem_cut rest (Pending.damage_mem_start byte List.mem_cons_self)

theorem tail_of_undamaged {bits more : Nat}
    (h : .damage ∉ cut (some ⟨bits, 0x80, 0xBF, more⟩) found bytes) :
    ∃ byte rest, bytes = byte :: rest ∧ Tail byte := by
  obtain ⟨byte, rest, rfl, hb⟩ := next_of_undamaged h
  exact ⟨byte, rest, rfl, (Pending.tail_iff byte).mp hb⟩

/-- Without damage, bytes begin with some that stand for a character. -/
theorem sequence_of_undamaged {byte : UInt8} (h : .damage ∉ cut none found (byte :: bytes)) :
    ∃ head rest n, byte :: bytes = head ++ rest ∧ Sequence head n := by
  by_cases hone : byte.toNat < 0x80
  · exact ⟨[byte], bytes, _, rfl, .one hone⟩
  by_cases hlead : ∃ base more, Lead byte base more
  · obtain ⟨base, more, lead⟩ := hlead
    obtain ⟨least, greatest, hstart, hsecond⟩ := Pending.start_lead lead found
    rw [cut_cons_none, hstart] at h
    obtain ⟨b, rest, rfl, hb⟩ := next_of_undamaged h
    have second := (hsecond b).mp hb
    cases lead with
    | two l g => exact ⟨[byte, b], rest, _, rfl, .two (.two l g) second⟩
    | three l g =>
      rw [cut_cons_some, Pending.next_more rfl hb] at h
      obtain ⟨c, rest, rfl, third⟩ := tail_of_undamaged h
      exact ⟨[byte, b, c], rest, _, rfl, .three (.three l g) second third⟩
    | four l g =>
      rw [cut_cons_some, Pending.next_more rfl hb] at h
      obtain ⟨c, rest, rfl, third⟩ := tail_of_undamaged h
      rw [cut_cons_some, Pending.next_more rfl ((Pending.tail_iff c).mpr third)] at h
      obtain ⟨d, rest, rfl, fourth⟩ := tail_of_undamaged h
      exact ⟨[byte, b, c, d], rest, _, rfl, .four (.four l g) second third fourth⟩
  · have hdamage := Pending.start_damage (Nat.not_lt.mp hone)
      (fun base more lead => hlead ⟨base, more, lead⟩) found
    rw [cut_cons_none, hdamage] at h
    exact absurd (damage_mem_cut bytes List.mem_cons_self) h

/-- Bytes without damage are the encoding of some characters. -/
theorem chars_of_undamaged (h : .damage ∉ cut none found bytes) :
    ∃ cs : List Char, bytes = cs.flatMap String.utf8EncodeChar := by
  -- On the length, since a character takes off as many bytes as its first one says.
  induction hlen : bytes.length using Nat.strongRecOn generalizing bytes found with
  | ind length ih =>
    cases bytes with
    | nil => exact ⟨[], rfl⟩
    | cons byte rest =>
      obtain ⟨head, tail, n, hbytes, hseq⟩ := sequence_of_undamaged h
      rw [hbytes, cut_sequence hseq] at h
      have hshort : tail.length < length := by
        have hhead : 0 < head.length := by cases hseq <;> simp
        have htotal := congrArg List.length hbytes
        rw [List.length_append] at htotal
        omega
      obtain ⟨cs, hcs⟩ := ih tail.length hshort h rfl
      refine ⟨Char.ofNat n :: cs, ?_⟩
      rw [List.flatMap_cons, utf8EncodeChar_of_sequence hseq, ← hcs, hbytes]

end

theorem mapM_char (cs : List Char) : (cs.map Piece.char).mapM Piece.char? = some cs := by
  induction cs with
  | nil => rfl
  | cons c cs ih =>
    rw [List.map_cons, List.mapM_cons, ih]
    rfl

theorem undamaged_of_mapM {ps : List Piece} {cs : List Char} (h : ps.mapM Piece.char? = some cs) :
    .damage ∉ ps := by
  induction ps generalizing cs with
  | nil => exact List.not_mem_nil
  | cons piece ps ih =>
    rw [List.mapM_cons] at h
    cases piece with
    | damage => cases h
    | char c =>
      obtain ⟨c', hc, h⟩ := Option.bind_eq_some_iff.mp h
      obtain ⟨cs', hcs, -⟩ := Option.bind_eq_some_iff.mp h
      rintro (_ | ⟨_, hm⟩)
      exact ih hcs hm

theorem decode_encode (text : String) : decode? (encode text) = some text := by
  have hpieces : pieces (encode text) = text.toList.map .char := by
    rw [← String.ofList_toList (s := text), encode_ofList, pieces, cut_chars, String.toList_ofList]
    rfl
  rw [decode?, hpieces, mapM_char, Option.map_some, String.ofList_toList]

/-- Bytes are read as a text just if they are its encoding. -/
theorem decode_eq_some_iff {bytes : List UInt8} {text : String} :
    decode? bytes = some text ↔ bytes = encode text := by
  constructor
  · intro h
    obtain ⟨chars, hchars, -⟩ := Option.map_eq_some_iff.mp h
    obtain ⟨cs, rfl⟩ := chars_of_undamaged (undamaged_of_mapM hchars)
    rw [← encode_ofList, decode_encode] at h
    rw [← encode_ofList, Option.some.inj h]
  · rintro rfl
    exact decode_encode text

end PriorityPortal.Text
