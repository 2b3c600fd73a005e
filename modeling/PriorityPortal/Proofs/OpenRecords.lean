/-!
# Open records

Something at work is listed while it is, and put on record for good. The records that are open
stand for what is listed, in the same order.
-/
namespace PriorityPortal

section

variable {π ρ σ τ : Type}

/-- What is listed has an open record, at the same place among the open ones. -/
theorem split_standing {shown : π → σ} {isOpen : ρ → Bool} {told : ρ → σ} {pb pa : List π} {p : π}
    {records : List ρ} (h : (pb ++ p :: pa).map shown = (records.filter isOpen).map told) :
    ∃ record rb ra, records = rb ++ record :: ra ∧ isOpen record = true ∧
      told record = shown p ∧ pb.map shown = (rb.filter isOpen).map told ∧
      pa.map shown = (ra.filter isOpen).map told := by
  rw [List.map_append, List.map_cons] at h
  obtain ⟨fb, rest, hfilter, hbefore, hrest⟩ := List.append_eq_map_iff.mp h
  obtain ⟨record, fa, rfl, hrecord, hafter⟩ := List.map_eq_cons_iff.mp hrest
  -- Closed records may stand between the open ones; they go with those before.
  obtain ⟨rb, rest, rfl, rfl, hrest⟩ := List.filter_eq_append_iff.mp hfilter
  obtain ⟨closed, ra, rfl, hclosed, hopen, rfl⟩ := List.filter_eq_cons_iff.mp hrest
  have hnone : closed.filter isOpen = [] := List.filter_eq_nil_iff.mpr hclosed
  refine ⟨record, rb ++ closed, ra, ?_, hopen, hrecord, ?_, hafter.symm⟩
  · rw [List.append_assoc]
  · rw [List.filter_append, hnone, List.append_nil]
    exact hbefore.symm

theorem keys_of_standing {shown : π → Nat × τ} {isOpen : ρ → Bool} {told : ρ → Nat × τ}
    {ps : List π} {records : List ρ} (h : ps.map shown = (records.filter isOpen).map told) :
    (records.filter isOpen).map (fun r => (told r).1) = ps.map fun p => (shown p).1 := by
  have hk := congrArg (List.map Prod.fst) h
  rw [List.map_map, List.map_map] at hk
  exact hk.symm

theorem absent_of_distinct {keyOf : π → Nat} {p : π} {pb pa : List π}
    (h : ((pb ++ p :: pa).map keyOf).Nodup) :
    keyOf p ∉ pb.map keyOf ∧ keyOf p ∉ pa.map keyOf := by
  rw [List.map_append, List.map_cons, List.nodup_append, List.nodup_cons] at h
  obtain ⟨-, ⟨hafter, -⟩, happart⟩ := h
  refine ⟨?_, hafter⟩
  intro hm
  exact happart (keyOf p) hm (keyOf p) List.mem_cons_self rfl

/-- A key that no open record has is that of closed records only. -/
theorem closed_of_absent {isOpen : ρ → Bool} {keyOf : ρ → Nat} {key : Nat} {records : List ρ}
    (h : key ∉ (records.filter isOpen).map keyOf) :
    ∀ r ∈ records, ¬ (keyOf r = key ∧ isOpen r = true) := by
  rintro r hr ⟨hkey, hopen⟩
  exact h (List.mem_map.mpr ⟨r, List.mem_filter.mpr ⟨hr, hopen⟩, hkey⟩)

theorem key_ne_of_absent {keyOf : π → Nat} {key : Nat} {ps : List π} (h : key ∉ ps.map keyOf) :
    ∀ p ∈ ps, keyOf p ≠ key :=
  fun _ hp he => h (he ▸ List.mem_map_of_mem hp)

/-- A change to whatever is as described, where nothing is. -/
theorem map_change_none {p : ρ → Prop} [DecidablePred p] {change : ρ → ρ} {rs : List ρ}
    (h : ∀ r ∈ rs, ¬ p r) : rs.map (fun r => if p r then change r else r) = rs :=
  (List.map_congr_left fun r hr => if_neg (h r hr)).trans (List.map_id rs)

/-- A change to whatever is as described, where one alone is. -/
theorem map_change_one {p : ρ → Prop} [DecidablePred p] {change : ρ → ρ} {rb ra : List ρ}
    {record : ρ} (h : p record) (hb : ∀ r ∈ rb, ¬ p r) (ha : ∀ r ∈ ra, ¬ p r) :
    (rb ++ record :: ra).map (fun r => if p r then change r else r) =
      rb ++ change record :: ra := by
  rw [List.map_append, List.map_cons, if_pos h, map_change_none hb, map_change_none ha]

/-- What alone has its key is taken from the list. -/
theorem filter_one {keyOf : π → Nat} {p : π} {pb pa : List π} (hb : keyOf p ∉ pb.map keyOf)
    (ha : keyOf p ∉ pa.map keyOf) :
    (pb ++ p :: pa).filter (fun q => keyOf q != keyOf p) = pb ++ pa := by
  have keep : ∀ ps : List π, keyOf p ∉ ps.map keyOf →
      ps.filter (fun q => keyOf q != keyOf p) = ps := by
    intro ps hps
    exact List.filter_eq_self.mpr fun q hq => bne_iff_ne.mpr (key_ne_of_absent hps q hq)
  rw [List.filter_append, List.filter_cons_of_neg (by simp), keep pb hb, keep pa ha]

end

end PriorityPortal
