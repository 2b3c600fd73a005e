import Mathlib.Data.List.Lookmap
import PriorityPortal.Proofs.QuotedText
import PriorityPortal.Toml.Document
/-!
# Documents that are written

A document that is written is read back: each of its lines is one statement, and the statements
make up the tables that were written. The names of tables and of what is in them are made of
characters that need no quotes, and no two of a kind are the same.
-/
namespace PriorityPortal.Toml

structure Bare (name : String) : Prop where
  nonempty : name.toList ≠ []
  chars : ∀ c ∈ name.toList, isBareChar c = true

def Leaf.value : Leaf → Value
  | string s => .string s
  | boolean b => .boolean b

namespace Block

def pairs (block : Block) : List Pair :=
  block.entries.map fun (name, leaf) => ⟨[], name, leaf.value⟩

def nodes (block : Block) : Nodes :=
  block.entries.map fun (name, leaf) => (name, .value leaf.value)

def header (block : Block) : Header := ⟨[], block.name, false⟩

def statements (block : Block) : List Statement := .header block.header :: block.pairs.map .pair

def entry (block : Block) : String × Value :=
  (block.name, .table (block.entries.map fun (name, leaf) => (name, leaf.value)))

structure Fit (block : Block) : Prop where
  bare : Bare block.name
  entriesBare : ∀ entry ∈ block.entries, Bare entry.1
  distinct : (block.entries.map (·.1)).Nodup

end Block

section

variable {c : Char} {cs rest : List Char} {name : String} {leaf : Leaf}

theorem dropSpaces_cons (h : isSpace c = false) : dropSpaces (c :: cs) = c :: cs := by
  simp [dropSpaces, h]

/-- The characters of keys do not start anything else. -/
theorem ne_of_isBareChar (h : isBareChar c = true) :
    isSpace c = false ∧ c ≠ '"' ∧ c ≠ '\'' ∧ c ≠ '[' ∧ c ≠ '#' ∧ c ≠ '\n' ∧ c ≠ '\r' := by
  have hne : ∀ d, isBareChar d = false → c ≠ d := by
    rintro d hd rfl
    exact absurd (h.symm.trans hd) (by decide)
  have hspace : isSpace c = false := by
    simp [isSpace, hne ' ' (by decide), hne '\t' (by decide)]
  exact ⟨hspace, hne _ (by decide), hne _ (by decide), hne _ (by decide), hne _ (by decide),
    hne _ (by decide), hne _ (by decide)⟩

theorem Bare.cons (h : Bare name) : ∃ c more, name.toList = c :: more ∧ isBareChar c = true := by
  obtain ⟨c, more, hname⟩ := List.exists_cons_of_ne_nil h.nonempty
  exact ⟨c, more, hname, h.chars c (by simp [hname])⟩

theorem keyPart_bare (h : Bare name) (hc : isBareChar c = false) :
    keyPart (name.toList ++ c :: rest) = some (name.toList, c :: rest) := by
  obtain ⟨d, more, hname, hd⟩ := h.cons
  obtain ⟨-, hdouble, hsingle, -⟩ := ne_of_isBareChar hd
  have htake : (name.toList ++ c :: rest).takeWhile isBareChar = name.toList := by
    rw [List.takeWhile_append_of_pos h.chars, List.takeWhile_cons_of_neg (by simp [hc]),
      List.append_nil]
  have hdrop : (name.toList ++ c :: rest).dropWhile isBareChar = c :: rest := by
    rw [List.dropWhile_append_of_pos h.chars, List.dropWhile_cons_of_neg (by simp [hc])]
  unfold keyPart
  split
  next hcs => exact absurd (List.cons.inj (by rwa [hname] at hcs)).1 hdouble
  next hcs => exact absurd (List.cons.inj (by rwa [hname] at hcs)).1 hsingle
  next => rw [htake, hdrop, hname]

theorem key_bare (h : Bare name) (hc : isBareChar c = false)
    (hdot : (dropSpaces (c :: rest)).head? ≠ some '.') :
    key (name.toList ++ c :: rest) = some ([], name, dropSpaces (c :: rest)) := by
  obtain ⟨d, more, hname, hd⟩ := h.cons
  have hspaces : dropSpaces (name.toList ++ c :: rest) = name.toList ++ c :: rest := by
    rw [hname]
    exact dropSpaces_cons (ne_of_isBareChar hd).1
  have hparts : keyParts greatestDepth (name.toList ++ c :: rest) =
      some ([name], dropSpaces (c :: rest)) := by
    rw [greatestDepth, keyParts, hspaces, keyPart_bare h hc]
    simp only [Option.bind_eq_bind, Option.bind_some, String.ofList_toList]
    split
    next hbehind => exact absurd (by rw [hbehind]; rfl) hdot
    next => rfl
  rw [key, hparts]
  rfl

theorem readHeader_bare (h : Bare name) :
    readHeader false (name.toList ++ ']' :: rest) = some (.header ⟨[], name, false⟩, rest) := by
  have hspaces : dropSpaces (']' :: rest) = ']' :: rest := dropSpaces_cons (by decide)
  rw [readHeader, key_bare h (by decide) (by rw [hspaces]; simp), hspaces]
  rfl

theorem write_quote (cs : List Char) : ∃ q more, write cs = q :: more ∧ (q = '"' ∨ q = '\'') := by
  unfold write
  cases Style.of cs with
  | basic => exact ⟨_, _, rfl, Or.inl rfl⟩
  | literal => exact ⟨_, _, rfl, Or.inr rfl⟩
  | basicLines => exact ⟨_, _, rfl, Or.inl rfl⟩
  | literalLines => exact ⟨_, _, rfl, Or.inr rfl⟩

theorem Leaf.text_cons (leaf : Leaf) : ∃ c more, leaf.text = c :: more ∧ isSpace c = false := by
  cases leaf with
  | string s =>
    obtain ⟨q, more, hwrite, hq⟩ := write_quote s.toList
    refine ⟨q, more, hwrite, ?_⟩
    obtain rfl | rfl := hq <;> decide
  | boolean b => cases b <;> exact ⟨_, _, rfl, by decide⟩

theorem readValue_leaf (fuel depth : Nat) :
    readValue (fuel + 1) depth (leaf.text ++ '\n' :: rest) = some (leaf.value, '\n' :: rest) := by
  cases leaf with
  | string s =>
    have hread : quoted ((Leaf.string s).text ++ '\n' :: rest) = some (s.toList, '\n' :: rest) :=
      quoted_write s.toList
    obtain ⟨q, more, hwrite, hq⟩ := write_quote s.toList
    rw [Leaf.text, hwrite, List.cons_append] at hread ⊢
    obtain rfl | rfl := hq <;> rw [readValue, hread] <;> simp [Leaf.value]
  | boolean b => cases b <;> rfl

theorem readPair_bare (h : Bare name) :
    readPair (name.toList ++ [' ', '=', ' '] ++ leaf.text ++ '\n' :: rest) =
      some (.pair ⟨[], name, leaf.value⟩, '\n' :: rest) := by
  have hequals : dropSpaces (' ' :: '=' :: ' ' :: (leaf.text ++ '\n' :: rest)) =
      '=' :: ' ' :: (leaf.text ++ '\n' :: rest) := by
    simp [dropSpaces, isSpace]
  have hvalue : dropSpaces (' ' :: (leaf.text ++ '\n' :: rest)) = leaf.text ++ '\n' :: rest := by
    obtain ⟨c, more, hleaf, hc⟩ := leaf.text_cons
    rw [dropSpaces, List.dropWhile_cons_of_pos (by decide), hleaf]
    exact dropSpaces_cons hc
  rw [List.append_assoc, List.append_assoc, readPair]
  change ((key (name.toList ++ ' ' :: '=' :: ' ' :: (leaf.text ++ '\n' :: rest))).bind _) = _
  rw [key_bare h (by decide) (by rw [hequals]; simp), hequals]
  simp [hvalue, readValue_leaf]

theorem readStatement_header (h : Bare name) :
    readStatement ('[' :: name.toList ++ ']' :: rest) =
      some (.header ⟨[], name, false⟩, rest) := by
  obtain ⟨c, more, hname, hc⟩ := h.cons
  obtain ⟨-, -, -, hbracket, -⟩ := ne_of_isBareChar hc
  rw [← readHeader_bare h, hname]
  simp [readStatement, hbracket]

theorem readStatement_pair (h : Bare name) :
    readStatement (name.toList ++ [' ', '=', ' '] ++ leaf.text ++ '\n' :: rest) =
      some (.pair ⟨[], name, leaf.value⟩, '\n' :: rest) := by
  obtain ⟨c, more, hname, hc⟩ := h.cons
  obtain ⟨-, -, -, hbracket, -⟩ := ne_of_isBareChar hc
  rw [← readPair_bare h, hname]
  simp [readStatement, hbracket]

/-- A text reads as statements, whatever greater number than that of its characters bounds its
lines. -/
def Reads (cs : List Char) (statements : List Statement) : Prop :=
  ∀ lines, cs.length < lines → readStatements lines cs = some statements

variable {statements : List Statement} {statement : Statement} {text : List Char}

theorem Reads.nil : Reads [] [] := by
  intro lines hlines
  obtain ⟨lines, rfl⟩ := Nat.exists_eq_add_one_of_ne_zero (Nat.ne_of_gt hlines)
  rfl

theorem Reads.blank (h : Reads cs statements) : Reads ('\n' :: cs) statements := by
  intro lines hlines
  obtain ⟨lines, rfl⟩ := Nat.exists_eq_add_one_of_ne_zero (Nat.ne_of_gt (Nat.zero_lt_of_lt hlines))
  exact h lines (Nat.lt_of_succ_lt_succ hlines)

/-- A line is read as the statement that it starts with. -/
theorem Reads.line (h : Reads rest statements)
    (hread : readStatement (text ++ '\n' :: rest) = some (statement, '\n' :: rest))
    (hstart : ∃ c more, text = c :: more ∧ (isBareChar c = true ∨ c = '[')) :
    Reads (text ++ '\n' :: rest) (statement :: statements) := by
  intro lines hlines
  obtain ⟨lines, rfl⟩ := Nat.exists_eq_add_one_of_ne_zero (Nat.ne_of_gt (Nat.zero_lt_of_lt hlines))
  obtain ⟨c, more, rfl, hc⟩ := hstart
  have hrest : readStatements lines rest = some statements := by
    refine h lines ?_
    simp only [List.length_append, List.length_cons] at hlines
    omega
  obtain ⟨hspace, hcomment, hfeed, hreturn⟩ :
      isSpace c = false ∧ c ≠ '#' ∧ c ≠ '\n' ∧ c ≠ '\r' := by
    rcases hc with hc | rfl
    · obtain ⟨hspace, -, -, -, hothers⟩ := ne_of_isBareChar hc
      exact ⟨hspace, hothers⟩
    · decide
  rw [List.cons_append] at hread ⊢
  have hspaces := @dropSpaces_cons c (more ++ '\n' :: rest) hspace
  have hdrop : dropComment (c :: (more ++ '\n' :: rest)) = c :: (more ++ '\n' :: rest) := by
    rw [dropComment]
    simpa using hcomment
  have hline : afterLineEnd? (c :: (more ++ '\n' :: rest)) = none := by
    rw [afterLineEnd?]
    · simpa using hfeed
    · exact fun _ hc => absurd (List.cons.inj hc).1 hreturn
  have hafter : afterLine? ('\n' :: rest) = some rest := rfl
  simp only [readStatements, hspaces, hdrop, hline, hread]
  simp [hafter, hrest]

/-- The lines of a table's entries are read as pairs. -/
theorem reads_entries {entries : List (String × Leaf)} (hbare : ∀ entry ∈ entries, Bare entry.1)
    (h : Reads rest statements) :
    Reads ((entries.flatMap fun (name, leaf) =>
        name.toList ++ [' ', '=', ' '] ++ leaf.text ++ ['\n']) ++ rest)
      (((entries.map fun (name, leaf) => ⟨[], name, leaf.value⟩).map .pair) ++ statements) := by
  induction entries with
  | nil => exact h
  | cons entry entries ih =>
    obtain ⟨hentry, hentries⟩ := List.forall_mem_cons.mp hbare
    obtain ⟨c, more, hname, hc⟩ := hentry.cons
    have hread := (ih hentries).line (@readStatement_pair _ entry.1 entry.2 hentry)
      ⟨c, more ++ [' ', '=', ' '] ++ entry.2.text, by simp [hname], Or.inl hc⟩
    simpa using hread

theorem reads_block {block : Block} (hfit : block.Fit) (h : Reads rest statements) :
    Reads (block.text ++ rest) (block.statements ++ statements) := by
  have hentries := reads_entries hfit.entriesBare h
  have hheader := @readStatement_header ('\n' :: ((block.entries.flatMap fun (name, leaf) =>
    name.toList ++ [' ', '=', ' '] ++ leaf.text ++ ['\n']) ++ rest)) block.name hfit.bare
  have hread := @Reads.line _ _ _ ('[' :: block.name.toList ++ [']']) hentries
    (by simpa using hheader) ⟨'[', _, rfl, Or.inr rfl⟩
  simpa [Block.text, Block.statements, Block.header, Block.pairs] using hread

theorem reads_blocks {blocks : List Block} (hfit : ∀ block ∈ blocks, block.Fit) :
    Reads (['\n'].intercalate (blocks.map Block.text)) (blocks.flatMap Block.statements) := by
  induction blocks with
  | nil => exact Reads.nil
  | cons block blocks ih =>
    obtain ⟨hblock, hblocks⟩ := List.forall_mem_cons.mp hfit
    cases blocks with
    | nil => simpa [List.intercalate] using reads_block hblock Reads.nil
    | cons next blocks =>
      have hread := reads_block hblock (ih hblocks).blank
      simpa [List.intercalate_cons_cons] using hread

variable {blocks : List Block} {nodes : Nodes} {entries : List (String × Leaf)}

theorem sections_pairs (pairs : List Pair) (statements : List Statement) :
    sections (pairs.map .pair ++ statements) =
      (pairs ++ (sections statements).1, (sections statements).2) := by
  induction pairs with
  | nil => rfl
  | cons pair pairs ih =>
    change ((pair :: (sections (pairs.map .pair ++ statements)).1,
      (sections (pairs.map .pair ++ statements)).2)) = _
    rw [ih]
    rfl

theorem sections_header (h : Header) (statements : List Statement) :
    sections (.header h :: statements) =
      ([], (h, (sections statements).1) :: (sections statements).2) := rfl

theorem sections_blocks (blocks : List Block) : sections (blocks.flatMap Block.statements) =
    ([], blocks.map fun block => (block.header, block.pairs)) := by
  induction blocks with
  | nil => rfl
  | cons block blocks ih =>
    rw [List.flatMap_cons, Block.statements, List.cons_append, sections_header, sections_pairs, ih]
    simp

theorem lookup_append_ne {a b : String} {node : Node} (hne : a ≠ b) (h : nodes.lookup a = none) :
    (nodes ++ [(b, node)]).lookup a = none := by
  have hsame : (a == b) = false := by simpa using hne
  rw [List.lookup_append, h]
  simp [List.lookup_cons, hsame]

/-- New names with values can be put into a table one after another. -/
theorem putAll_entries (hdistinct : (entries.map (·.1)).Nodup)
    (hnew : ∀ entry ∈ entries, nodes.lookup entry.1 = none) :
    Nodes.putAll (entries.map fun (name, leaf) => ⟨[], name, leaf.value⟩) nodes =
      some (nodes ++ entries.map fun (name, leaf) => (name, .value leaf.value)) := by
  induction entries generalizing nodes with
  | nil => simp [Nodes.putAll]
  | cons entry entries ih =>
    obtain ⟨hentry, hentries⟩ := List.forall_mem_cons.mp hnew
    obtain ⟨hother, hothers⟩ := List.nodup_cons.mp hdistinct
    have hnext : ∀ other ∈ entries,
        (nodes ++ [(entry.1, Node.value entry.2.value)]).lookup other.1 = none := by
      intro other hmem
      refine lookup_append_ne ?_ (hentries other hmem)
      intro hname
      exact hother (List.mem_map.mpr ⟨other, hmem, hname⟩)
    have hput : Nodes.put entry.1 entry.2.value [] nodes =
        some (nodes ++ [(entry.1, .value entry.2.value)]) := by
      simp [Nodes.put, hentry]
    have hrest := ih hothers hnext
    simp only [Nodes.putAll] at hrest ⊢
    rw [List.map_cons, List.foldlM_cons, hput]
    simpa using hrest

theorem attach_block {block : Block} (hfit : block.Fit) (hnew : nodes.lookup block.name = none) :
    nodes.attach block.header block.pairs =
      some (nodes ++ [(block.name, .table .byHeader block.nodes)]) := by
  have hfill : Nodes.putAll block.pairs [] = some block.nodes :=
    putAll_entries hfit.distinct fun _ _ => rfl
  have hothers : nodes.filter (·.1 != block.name) = nodes := by
    rw [List.filter_eq_self]
    intro node hnode
    have hne := (List.lookup_eq_none_iff.mp hnew) node hnode
    simpa [bne, Bool.beq_comm] using hne
  simp [Nodes.attach, Block.header, Nodes.change, Nodes.openTable, hnew, hfill, hothers]

theorem attach_blocks (hfit : ∀ block ∈ blocks, block.Fit)
    (hdistinct : (blocks.map Block.name).Nodup)
    (hnew : ∀ block ∈ blocks, nodes.lookup block.name = none) :
    (blocks.map fun block => (block.header, block.pairs)).foldlM
        (fun nodes (header, pairs) => nodes.attach header pairs) nodes =
      some (nodes ++ blocks.map fun block => (block.name, .table .byHeader block.nodes)) := by
  induction blocks generalizing nodes with
  | nil => simp
  | cons block blocks ih =>
    obtain ⟨hblock, hblocks⟩ := List.forall_mem_cons.mp hfit
    obtain ⟨hname, hnames⟩ := List.forall_mem_cons.mp hnew
    obtain ⟨hother, hothers⟩ := List.nodup_cons.mp hdistinct
    have hnext : ∀ other ∈ blocks,
        (nodes ++ [(block.name, Node.table .byHeader block.nodes)]).lookup other.name = none := by
      intro other hmem
      refine lookup_append_ne ?_ (hnames other hmem)
      intro hsame
      exact hother (List.mem_map.mpr ⟨other, hmem, hsame⟩)
    rw [List.map_cons, List.foldlM_cons]
    simp only [attach_block hblock hname]
    simpa using ih hblocks hothers hnext

theorem finish_entries (entries : List (String × Leaf)) :
    Nodes.finish (entries.map fun (name, leaf) => (name, .value leaf.value)) =
      entries.map fun (name, leaf) => (name, leaf.value) := by
  induction entries with
  | nil => rfl
  | cons entry entries ih =>
    simp only [List.map_cons, Nodes.finish, Nodes.finishNode, ih]

theorem finish_blocks (blocks : List Block) :
    Nodes.finish (blocks.map fun block => (block.name, .table .byHeader block.nodes)) =
      blocks.map Block.entry := by
  induction blocks with
  | nil => rfl
  | cons block blocks ih =>
    have hnodes : Nodes.finish block.nodes = _ := finish_entries block.entries
    simp only [List.map_cons, Nodes.finish, Nodes.finishNode, hnodes, ih, Block.entry]

/-- The statements of a document that is written are those of its blocks. -/
theorem statements?_writeBlocks (hfit : ∀ block ∈ blocks, block.Fit) :
    statements? (writeBlocks blocks) = some (blocks.flatMap Block.statements) := by
  have hread := reads_blocks hfit _ (Nat.lt_succ_self _)
  have hmark : ∀ cs, ['\n'].intercalate (blocks.map Block.text) ≠ '\uFEFF' :: cs := by
    intro cs
    cases blocks with
    | nil => simp
    | cons block blocks => cases blocks <;> simp [List.intercalate, Block.text]
  rw [statements?, writeBlocks, String.toList_ofList]
  split
  next cs hcs => exact absurd hcs (hmark cs)
  next => exact hread

/-- A document that is written gives its tables back. -/
theorem parse?_writeBlocks (hfit : ∀ block ∈ blocks, block.Fit)
    (hdistinct : (blocks.map Block.name).Nodup) :
    parse? (writeBlocks blocks) = some (blocks.map Block.entry) := by
  have hattach := @attach_blocks blocks [] hfit hdistinct fun _ _ => rfl
  rw [parse?, statements?_writeBlocks hfit, Option.bind_some, ofStatements?, sections_blocks]
  simp [Nodes.putAll, hattach, finish_blocks]

end

end PriorityPortal.Toml
