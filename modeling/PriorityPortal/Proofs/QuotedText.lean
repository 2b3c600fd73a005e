import Mathlib.Data.List.Basic
import PriorityPortal.Toml.Writer
/-!
# Strings in quotes

A string that is written in quotes is read back, whatever it holds. Each character is spelled by a
piece of the text that both readers of double quotes take for it. Quotes that stand for themselves
are told from the closing ones by how many of them stand in a row.
-/
namespace PriorityPortal.Toml

inductive Piece (manyLines : Bool) : List Char → Char → Prop where
  | letter {letter c : Char} : escaped? letter = some c → Piece manyLines ['\\', letter] c
  | code {n : Nat} : n < 0x80 → Piece manyLines ('\\' :: 'u' :: fourDigits n) (Char.ofNat n)
  | plain {c : Char} : isPlain c = true → c ≠ '"' → c ≠ '\\' → Piece manyLines [c] c
  | line : manyLines = true → Piece manyLines ['\n'] '\n'

section

variable {c letter : Char} {cs piece rest text : List Char} {manyLines : Bool} {most run : Nat}

theorem codePoint?_fourDigits : ∀ n < 0x80, codePoint? (fourDigits n) = some (Char.ofNat n) := by
  decide

theorem escaped?_ne_u (h : escaped? letter = some c) : letter ≠ 'u' ∧ letter ≠ 'U' := by
  constructor <;> rintro rfl <;> simp [escaped?] at h

theorem ne_return_of_isPlain (h : isPlain c = true) : c ≠ '\r' := by
  rintro rfl
  exact absurd h (by decide)

theorem Piece.basic (h : Piece false piece c) (rest : List Char) :
    basic (piece ++ rest) = (basic rest).push [c] := by
  cases h with
  | letter h =>
    obtain ⟨hsmall, hlarge⟩ := escaped?_ne_u h
    simp [Toml.basic, hsmall, hlarge, h]
  | @code n h =>
    have hpoint : (codePoint? (fourDigits n)).bind (fun char => (Toml.basic rest).push [char]) =
        (Toml.basic rest).push [Char.ofNat n] := by
      rw [codePoint?_fourDigits n h, Option.bind_some]
    rw [← hpoint]
    simp [fourDigits, Toml.basic]
  | plain h hquote hslash => rw [List.singleton_append, Toml.basic] <;> simp_all
  | line h => cases h

theorem Piece.basicLines (h : Piece true piece c) (rest : List Char) :
    basicLines false (piece ++ rest) = (basicLines false rest).push [c] := by
  cases h with
  | letter h =>
    obtain ⟨hsmall, hlarge⟩ := escaped?_ne_u h
    simp [Toml.basicLines, hsmall, hlarge, h]
  | @code n h =>
    have hpoint : (codePoint? (fourDigits n)).bind
        (fun char => (Toml.basicLines false rest).push [char]) =
        (Toml.basicLines false rest).push [Char.ofNat n] := by
      rw [codePoint?_fourDigits n h, Option.bind_some]
    rw [← hpoint]
    simp [fourDigits, Toml.basicLines]
  | plain h hquote hslash =>
    have hreturn := ne_return_of_isPlain h
    simp [Toml.basicLines, hquote, hslash, hreturn, h]
  | line h => simp [Toml.basicLines]

theorem Piece.head {d : Char} (h : Piece manyLines piece c) (hd : (piece ++ rest).head? = some d) :
    d ≠ '"' ∧ d ≠ '\r' ∧ (d = '\n' → c = '\n') := by
  cases h with
  | letter h =>
    obtain rfl : '\\' = d := by simpa using hd
    simp
  | code h =>
    obtain rfl : '\\' = d := by simpa using hd
    simp
  | plain h hquote hslash =>
    obtain rfl : c = d := by simpa using hd
    exact ⟨hquote, ne_return_of_isPlain h, id⟩
  | line h =>
    obtain rfl : '\n' = d := by simpa using hd
    decide

theorem isPlain_of_needsCode (h : needsCode c = false) : isPlain c = true ∨ c = '\n' := by
  by_cases hline : c = '\n'
  · exact Or.inr hline
  · by_cases htab : c = '\t'
    · exact Or.inl (by simp [isPlain, htab])
    · refine Or.inl ?_
      simpa [needsCode, isPlain, hline, htab] using h

theorem escape?_piece (hquote : c ≠ '"') : Piece manyLines ((escape? manyLines c).getD [c]) c := by
  unfold escape?
  split_ifs with hback htab hline hmany hfeed hreturn hslash hcode
  · subst hback
    exact .letter rfl
  · subst htab
    exact .letter rfl
  · subst hline
    exact .line hmany
  · subst hline
    exact .letter rfl
  · subst hfeed
    exact .letter rfl
  · subst hreturn
    exact .letter rfl
  · subst hslash
    exact .letter rfl
  · have hcode : Piece manyLines ('\\' :: 'u' :: fourDigits c.toNat) (Char.ofNat c.toNat) :=
      .code (by omega)
    rwa [Char.ofNat_toNat] at hcode
  · refine .plain ?_ hquote hslash
    simp only [isPlain, Bool.or_eq_true, Bool.and_eq_true, decide_eq_true_eq]
    omega

/-- The text of a character other than the quote is a piece, and the run of quotes ends there. -/
theorem escapeFrom_cons (h : c ≠ '"') : ∃ piece, Piece manyLines piece c ∧
    escapeFrom manyLines most run (c :: cs) = piece ++ escapeFrom manyLines most 0 cs := by
  refine ⟨_, escape?_piece h, ?_⟩
  rw [escapeFrom, if_neg h]
  cases escape? manyLines c <;> rfl

/-- A quote stands in front only where the string is over or where one may stand without escape. -/
theorem head_escapeFrom (h : (escapeFrom manyLines most run cs ++ rest).head? = some '"') :
    cs = [] ∨ run < most ∧ ∃ more, cs = '"' :: more := by
  cases cs with
  | nil => exact Or.inl rfl
  | cons c cs =>
    refine Or.inr ?_
    by_cases hquote : c = '"'
    · subst hquote
      refine ⟨Decidable.byContradiction fun hrun => ?_, cs, rfl⟩
      simp [escapeFrom, hrun] at h
    · obtain ⟨piece, hpiece, htext⟩ := @escapeFrom_cons c cs manyLines most run hquote
      rw [htext, List.append_assoc] at h
      exact absurd rfl (hpiece.head h).1

theorem basic_escapeFrom : basic (escapeFrom false 0 run cs ++ '"' :: rest) = some (cs, rest) := by
  induction cs generalizing run with
  | nil => simp [escapeFrom, basic]
  | cons c cs ih =>
    by_cases hquote : c = '"'
    · subst hquote
      have hpiece : Piece false ['\\', '"'] '"' := .letter rfl
      simpa [escapeFrom, ih, Read.push] using hpiece.basic (escapeFrom false 0 0 cs ++ '"' :: rest)
    · obtain ⟨piece, hpiece, htext⟩ := @escapeFrom_cons c cs false 0 run hquote
      rw [htext, List.append_assoc, hpiece.basic, ih]
      rfl

/-- A quote stands for itself unless two more follow it. -/
theorem basicLines_quote (h : ¬ ['"', '"'] <+: text) :
    basicLines false ('"' :: text) = (basicLines false text).push ['"'] := by
  have htwo : ∀ more, text ≠ '"' :: '"' :: more := by
    rintro more rfl
    exact h (List.prefix_append ['"', '"'] more)
  rw [basicLines] <;> simp_all [isPlain]

/-- Two quotes in a row behind another are closing ones, up to one of them. -/
theorem two_quotes_escapeFrom
    (h : ['"', '"'] <+: escapeFrom true 2 (run + 1) cs ++ '"' :: '"' :: '"' :: rest) :
    cs = [] ∨ cs = ['"'] ∧ run = 0 := by
  have hfirst : (escapeFrom true 2 (run + 1) cs ++ '"' :: '"' :: '"' :: rest).head? = some '"' := by
    obtain ⟨more, hmore⟩ := h
    simp [← hmore]
  obtain rfl | ⟨hrun, more, rfl⟩ := head_escapeFrom hfirst
  · exact Or.inl rfl
  · have hzero : run = 0 := by omega
    subst hzero
    have hsecond : (escapeFrom true 2 2 more ++ '"' :: '"' :: '"' :: rest).head? = some '"' := by
      obtain ⟨behind, hbehind⟩ := h
      simp only [escapeFrom, hrun, if_true, List.cons_append, List.nil_append,
        List.cons.injEq, true_and] at hbehind
      simp [← hbehind]
    obtain rfl | ⟨hrun, -⟩ := head_escapeFrom hsecond
    · exact Or.inr ⟨rfl, rfl⟩
    · exact absurd hrun (Nat.lt_irrefl 2)

theorem basicLines_escapeFrom (hrest : rest.head? ≠ some '"') :
    basicLines false (escapeFrom true 2 run cs ++ '"' :: '"' :: '"' :: rest) =
      some (cs, rest) := by
  have hclosed : ∀ more, rest ≠ '"' :: more := by
    rintro more rfl
    exact hrest rfl
  induction cs generalizing run with
  | nil => simp [escapeFrom, basicLines, hclosed]
  | cons c cs ih =>
    by_cases hquote : c = '"'
    · subst hquote
      by_cases hrun : run < 2
      · rw [escapeFrom, if_pos rfl, if_pos hrun, List.cons_append]
        -- Two more quotes behind this one are closing ones, and then at most one quote is left.
        by_cases htwo :
            ['"', '"'] <+: escapeFrom true 2 (run + 1) cs ++ '"' :: '"' :: '"' :: rest
        · obtain rfl | ⟨rfl, rfl⟩ := two_quotes_escapeFrom htwo
          · simp [escapeFrom, basicLines]
          · simp [escapeFrom, basicLines]
        · rw [basicLines_quote htwo, ih]
          rfl
      · have hpiece : Piece true ['\\', '"'] '"' := .letter rfl
        have htext : escapeFrom true 2 run ('"' :: cs) = ['\\', '"'] ++ escapeFrom true 2 0 cs := by
          rw [escapeFrom, if_pos rfl, if_neg hrun]
          rfl
        rw [htext, List.append_assoc, hpiece.basicLines, ih]
        rfl
    · obtain ⟨piece, hpiece, htext⟩ := @escapeFrom_cons c cs true 2 run hquote
      rw [htext, List.append_assoc, hpiece.basicLines, ih]
      rfl

/-- After `run` quotes in a row no more than `most` of them ever stand together. -/
def RunsWithin (q : Char) (most : Nat) : Nat → List Char → Prop
  | _, [] => True
  | run, c :: rest =>
    if c = q then run < most ∧ RunsWithin q most (run + 1) rest else RunsWithin q most 0 rest

theorem runsWithin_of_longestRun {q : Char} (h : longestRun q cs ≤ most) :
    RunsWithin q most 0 cs := by
  let step : Nat × Nat → Char → Nat × Nat := fun now c =>
    let run := if c = q then now.1 + 1 else 0
    (run, max now.2 run)
  -- The longest run only grows, so that its length at the end bounds every run on the way.
  have hgrow : ∀ cs now, now.2 ≤ (List.foldl step now cs).2 := by
    intro cs
    induction cs with
    | nil => exact fun now => Nat.le_refl _
    | cons c cs ih => exact fun now => Nat.le_trans (Nat.le_max_left _ _) (ih (step now c))
  suffices hall : ∀ cs run longest, (List.foldl step (run, longest) cs).2 ≤ most →
      RunsWithin q most run cs from hall cs 0 0 h
  intro cs
  induction cs with
  | nil => exact fun _ _ _ => trivial
  | cons c cs ih =>
    intro run longest hfold
    rw [List.foldl_cons] at hfold
    have hnow : (step (run, longest) c).2 ≤ most := Nat.le_trans (hgrow cs _) hfold
    by_cases hq : c = q
    · have hrun : run + 1 ≤ most := by
        simp only [step, if_pos hq] at hnow
        omega
      simp only [step, if_pos hq] at hfold
      rw [RunsWithin, if_pos hq]
      exact ⟨hrun, ih (run + 1) _ hfold⟩
    · simp only [step, if_neg hq] at hfold
      rw [RunsWithin, if_neg hq]
      exact ih 0 _ hfold

theorem literal_plain (h : ∀ c ∈ cs, isPlain c = true ∧ c ≠ '\'') :
    literal (cs ++ '\'' :: rest) = some (cs, rest) := by
  induction cs with
  | nil => rfl
  | cons c cs ih =>
    obtain ⟨⟨hplain, hquote⟩, hcs⟩ := List.forall_mem_cons.mp h
    rw [List.cons_append, literal, if_pos hplain, ih hcs]
    · rfl
    · exact hquote

/-- A quote stands for itself unless two more follow it. -/
theorem literalLines_char (h : isPlain c = true ∨ c = '\n')
    (hquote : c = '\'' → ¬ ['\'', '\''] <+: text) :
    literalLines (c :: text) = (literalLines text).push [c] := by
  have hreturn : c ≠ '\r' := by
    rintro rfl
    exact absurd h (by decide)
  have htwo : ∀ more, c = '\'' → text ≠ '\'' :: '\'' :: more := by
    rintro more hc rfl
    exact hquote hc (List.prefix_append ['\'', '\''] more)
  rw [literalLines, if_pos h]
  · exact fun _ hc => htwo _ hc
  · exact fun _ hc => htwo _ hc
  · exact fun _ hc => htwo _ hc
  · exact fun _ hc => absurd hc hreturn

theorem two_quotes_runsWithin (hruns : RunsWithin '\'' 2 (run + 1) cs)
    (h : ['\'', '\''] <+: cs ++ '\'' :: '\'' :: '\'' :: rest) : cs = [] ∨ cs = ['\''] := by
  match cs, h with
  | [], _ => exact Or.inl rfl
  | [c], h =>
    obtain ⟨rfl, -⟩ := List.cons_prefix_cons.mp h
    exact Or.inr rfl
  | c :: d :: more, h =>
    obtain ⟨rfl, hbehind⟩ := List.cons_prefix_cons.mp h
    obtain ⟨rfl, -⟩ := List.cons_prefix_cons.mp hbehind
    simp only [RunsWithin, if_true] at hruns
    omega

theorem literalLines_plain (hchars : ∀ c ∈ cs, isPlain c = true ∨ c = '\n')
    (hruns : RunsWithin '\'' 2 run cs) (hrest : rest.head? ≠ some '\'') :
    literalLines (cs ++ '\'' :: '\'' :: '\'' :: rest) = some (cs, rest) := by
  have hclosed : ∀ more, rest ≠ '\'' :: more := by
    rintro more rfl
    exact hrest rfl
  induction cs generalizing run with
  | nil => simp [literalLines, hclosed]
  | cons c cs ih =>
    obtain ⟨hplain, hcs⟩ := List.forall_mem_cons.mp hchars
    rw [List.cons_append]
    by_cases hq : c = '\''
    · subst hq
      rw [RunsWithin, if_pos rfl] at hruns
      by_cases htwo : ['\'', '\''] <+: cs ++ '\'' :: '\'' :: '\'' :: rest
      · obtain rfl | rfl := two_quotes_runsWithin hruns.2 htwo
        · simp [literalLines]
        · simp [literalLines]
      · rw [literalLines_char hplain fun _ => htwo, ih hcs hruns.2]
        rfl
    · rw [RunsWithin, if_neg hq] at hruns
      rw [literalLines_char hplain fun hc => absurd hc hq, ih hcs hruns]
      rfl

theorem isPlain_of_no_codes (h : cs.any needsCode = false) :
    ∀ c ∈ cs, isPlain c = true ∨ c = '\n' := by
  intro c hc
  refine isPlain_of_needsCode ?_
  simpa using List.any_eq_false.mp h c hc

theorem Style.of_literal (h : Style.of cs = .literal) :
    cs ≠ [] ∧ ∀ c ∈ cs, isPlain c = true ∧ c ≠ '\'' := by
  simp only [Style.of] at h
  split_ifs at h with hbasic hliteral
  constructor
  · rintro rfl
    exact hbasic (by decide)
  · intro c hc
    obtain ⟨hcodes, hlines, hquote⟩ := hliteral
    have hline : c ≠ '\n' := by
      rintro rfl
      simp [hc] at hlines
    refine ⟨(isPlain_of_no_codes (by simpa using hcodes) c hc).resolve_right hline, ?_⟩
    rintro rfl
    simp [hc] at hquote

theorem Style.of_literalLines (h : Style.of cs = .literalLines) :
    (∀ c ∈ cs, isPlain c = true ∨ c = '\n') ∧ RunsWithin '\'' 2 0 cs := by
  simp only [Style.of] at h
  split_ifs at h with _ _ _ hlines
  obtain ⟨hcodes, hrun⟩ := hlines
  exact ⟨isPlain_of_no_codes (by simpa using hcodes), runsWithin_of_longestRun hrun⟩

/-- The line feed behind opening quotes is dropped, and nothing else is. -/
theorem dropLineEnd_lead
    (h : ∀ d, text.head? = some d → d ≠ '\r' ∧ (d = '\n' → '\n' ∈ cs)) :
    dropLineEnd (lead cs ++ text) = text := by
  by_cases hline : '\n' ∈ cs
  · simp [lead, hline, dropLineEnd, afterLineEnd?]
  · cases text with
    | nil => simp [lead, hline, dropLineEnd, afterLineEnd?]
    | cons d text =>
      obtain ⟨hreturn, hfeed⟩ := h d rfl
      have hd : d ≠ '\n' := fun hd => hline (hfeed hd)
      simp [lead, hline, dropLineEnd, afterLineEnd?, hd, hreturn]

theorem head_escapeFrom_lines {d : Char}
    (h : (escapeFrom true 2 run cs ++ '"' :: rest).head? = some d) :
    d ≠ '\r' ∧ (d = '\n' → '\n' ∈ cs) := by
  cases cs with
  | nil =>
    obtain rfl : '"' = d := by simpa [escapeFrom] using h
    decide
  | cons c cs =>
    by_cases hquote : c = '"'
    · subst hquote
      by_cases hrun : run < 2
      · obtain rfl : '"' = d := by simpa [escapeFrom, hrun] using h
        simp
      · obtain rfl : '\\' = d := by simpa [escapeFrom, hrun] using h
        simp
    · obtain ⟨piece, hpiece, htext⟩ := @escapeFrom_cons c cs true 2 run hquote
      rw [htext, List.append_assoc] at h
      obtain ⟨-, hreturn, hfeed⟩ := hpiece.head h
      exact ⟨hreturn, fun hd => List.mem_cons.mpr (Or.inl (hfeed hd).symm)⟩

theorem head_plain_lines {d : Char} (hchars : ∀ c ∈ cs, isPlain c = true ∨ c = '\n')
    (h : (cs ++ '\'' :: rest).head? = some d) : d ≠ '\r' ∧ (d = '\n' → '\n' ∈ cs) := by
  cases cs with
  | nil =>
    obtain rfl : '\'' = d := by simpa using h
    decide
  | cons c cs =>
    obtain rfl : c = d := by simpa using h
    refine ⟨?_, fun hc => hc ▸ List.mem_cons_self⟩
    rintro rfl
    exact absurd (hchars _ List.mem_cons_self) (by decide)

/-- Fewer than three quotes open a string on one line. -/
theorem quoted_eq_quotedLine (h : ∀ more, text ≠ c :: c :: more) :
    quoted (c :: text) = quotedLine (c :: text) := by
  rw [quoted]
  all_goals
    intro more hmore
    obtain ⟨rfl, htext⟩ := List.cons.inj hmore
    exact h more htext

/-- A string on a line of its own is read back. -/
theorem quoted_write (cs : List Char) :
    quoted (write cs ++ '\n' :: rest) = some (cs, '\n' :: rest) := by
  have hdouble : ('\n' :: rest).head? ≠ some '"' := by simp
  have hsingle : ('\n' :: rest).head? ≠ some '\'' := by simp
  unfold write
  cases hstyle : Style.of cs with
  | basic =>
    let text := escapeFrom false 0 0 cs ++ '"' :: '\n' :: rest
    have hread : basic text = some (cs, '\n' :: rest) := basic_escapeFrom
    have hshort : ∀ more, text ≠ '"' :: '"' :: more := by
      intro more htext
      have hhead : text.head? = some '"' := by rw [htext]; rfl
      obtain rfl | ⟨hrun, -⟩ := head_escapeFrom hhead
      · simp [text, escapeFrom] at htext
      · exact absurd hrun (Nat.lt_irrefl 0)
    have hquoted : quoted ('"' :: text) = basic text := quoted_eq_quotedLine hshort
    simpa [text, hread] using hquoted
  | literal =>
    obtain ⟨hsome, hchars⟩ := Style.of_literal hstyle
    let text := cs ++ '\'' :: '\n' :: rest
    have hread : literal text = some (cs, '\n' :: rest) := literal_plain hchars
    have hshort : ∀ more, text ≠ '\'' :: '\'' :: more := by
      obtain ⟨c, behind, rfl⟩ := List.exists_cons_of_ne_nil hsome
      intro more htext
      exact (hchars c List.mem_cons_self).2 (List.cons.inj htext).1
    have hquoted : quoted ('\'' :: text) = literal text := quoted_eq_quotedLine hshort
    simpa [text, hread] using hquoted
  | basicLines =>
    let text := escapeFrom true 2 0 cs ++ '"' :: '"' :: '"' :: '\n' :: rest
    have hread : basicLines false text = some (cs, '\n' :: rest) := basicLines_escapeFrom hdouble
    have hlead : dropLineEnd (lead cs ++ text) = text :=
      dropLineEnd_lead fun d => head_escapeFrom_lines
    simpa [quoted, text, hlead] using hread
  | literalLines =>
    obtain ⟨hchars, hruns⟩ := Style.of_literalLines hstyle
    let text := cs ++ '\'' :: '\'' :: '\'' :: '\n' :: rest
    have hread : literalLines text = some (cs, '\n' :: rest) :=
      literalLines_plain hchars hruns hsingle
    have hlead : dropLineEnd (lead cs ++ text) = text :=
      dropLineEnd_lead fun d => head_plain_lines hchars
    simpa [quoted, text, hlead] using hread

end

end PriorityPortal.Toml
