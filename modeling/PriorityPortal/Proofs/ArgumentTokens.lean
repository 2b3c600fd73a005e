import Mathlib.Data.List.Basic
import Mathlib.Data.List.Induction
import PriorityPortal.CommandLine.Arguments
/-!
# Arguments token by token

Arguments are read from the left in tokens: a word for a flag, or a word for the configuration with
the argument after it, whatever that looks like. Reading fails at the first place where no token
starts. What arguments give when others follow them depends only on what each of the two give.
-/
namespace PriorityPortal.CommandLine

inductive Flag where
  | verbose
  | noName
  | help
  deriving DecidableEq, Repr

def Flag.words : Flag → List String
  | verbose => ["--verbose", "-v"]
  | noName => ["--no-name"]
  | help => ["--help", "-h"]

def configWords : List String := ["--config", "-c"]

inductive Token where
  | flag (flag : Flag)
  | config (path : String)
  deriving DecidableEq, Repr

inductive Token.Written : Token → List String → Prop
  | flag {flag : Flag} {word : String} (h : word ∈ flag.words) : Written (.flag flag) [word]
  | config {word : String} (h : word ∈ configWords) (path : String) :
      Written (.config path) [word, path]

/-- The arguments are these tokens one after the other. -/
inductive Splits : List String → List Token → Prop
  | nil : Splits [] []
  | cons {written rest : List String} {token : Token} {tokens : List Token} :
      token.Written written → Splits rest tokens → Splits (written ++ rest) (token :: tokens)

/-- No token starts here, for a reason that is told as this error with this text. -/
inductive Stops : List String → ArgumentsError → String → Prop
  | unknown {word : String} (rest : List String) (noFlag : ∀ flag : Flag, word ∉ flag.words)
      (noConfig : word ∉ configWords) :
      Stops (word :: rest) (.unknown word) ("unknown argument: " ++ word)
  | noPath {word : String} (h : word ∈ configWords) : Stops [word] .noPath "--config needs a path"

def Divided (words : List String) : Prop :=
  ∃ front tokens behind, words = front ++ behind ∧ Splits front tokens ∧
    (behind = [] ∨ ∃ e text, Stops behind e text)

section

variable {token : Token} {tokens : List Token} {rest words : List String}

theorem Divided.cons (hrest : Divided rest) (h : token.Written words) :
    Divided (words ++ rest) := by
  obtain ⟨front, tokens, behind, rfl, hsplits, hend⟩ := hrest
  exact ⟨words ++ front, token :: tokens, behind, (List.append_assoc ..).symm, .cons h hsplits,
    hend⟩

theorem divided : ∀ words, Divided words
  | [] => ⟨[], [], [], rfl, .nil, .inl rfl⟩
  | word :: rest => by
    by_cases hflag : ∃ flag : Flag, word ∈ flag.words
    · obtain ⟨flag, hflag⟩ := hflag
      exact (divided rest).cons (.flag hflag)
    by_cases hconfig : word ∈ configWords
    · cases rest with
      | nil => exact ⟨[], [], [word], rfl, .nil, .inr ⟨_, _, .noPath hconfig⟩⟩
      | cons path rest => exact (divided rest).cons (.config hconfig path)
    · have hno : ∀ flag : Flag, word ∉ flag.words := not_exists.mp hflag
      exact ⟨[], [], word :: rest, rfl, .nil, .inr ⟨_, _, .unknown rest hno hconfig⟩⟩

/-- The first word of a token tells which one it is and how many words belong to it. -/
theorem written_unique {other : Token} {spelt more : List String} (h : token.Written words)
    (hother : other.Written spelt) (heq : words ++ rest = spelt ++ more) :
    token = other ∧ rest = more := by
  have hflags : ∀ f g : Flag, ∀ word ∈ f.words, word ∈ g.words → f = g := by
    intro f g
    cases f <;> cases g <;> decide
  have hconfig : ∀ f : Flag, ∀ word ∈ f.words, word ∉ configWords := by
    intro f
    cases f <;> decide
  cases h with
  | flag hword =>
    cases hother with
    | flag hspelt =>
      obtain ⟨rfl, rfl⟩ := List.cons.inj heq
      exact ⟨congrArg Token.flag (hflags _ _ _ hword hspelt), rfl⟩
    | config hspelt path =>
      obtain ⟨rfl, -⟩ := List.cons.inj heq
      exact absurd hspelt (hconfig _ _ hword)
  | config hword path =>
    cases hother with
    | flag hspelt =>
      obtain ⟨rfl, -⟩ := List.cons.inj heq
      exact absurd hword (hconfig _ _ hspelt)
    | config hspelt other =>
      obtain ⟨-, htails⟩ := List.cons.inj heq
      obtain ⟨rfl, rfl⟩ := List.cons.inj htails
      exact ⟨rfl, rfl⟩

theorem splits_unique {others : List Token} (h : Splits words tokens)
    (hothers : Splits words others) : tokens = others := by
  induction h generalizing others with
  | nil =>
    generalize hwords : ([] : List String) = words at hothers
    cases hothers with
    | nil => rfl
    | cons hwritten _ => cases hwritten <;> cases hwords
  | @cons written rest token tokens hwritten hrest ih =>
    generalize hwords : written ++ rest = words at hothers
    cases hothers with
    | nil => cases hwritten <;> cases hwords
    | cons hother hmore =>
      obtain ⟨rfl, rfl⟩ := written_unique hwritten hother hwords
      rw [ih hmore]

end

namespace Arguments

def has (a : Arguments) : Flag → Bool
  | .verbose => a.verbose
  | .noName => a.noName
  | .help => a.help

def LastConfig (tokens : List Token) (path : String) : Prop :=
  ∃ before after, tokens = before ++ .config path :: after ∧ ∀ other, .config other ∉ after

/-- What tokens give: the flags among them, and the argument of the last one that has any. -/
structure Gives (tokens : List Token) (a : Arguments) : Prop where
  flags : ∀ flag, a.has flag = true ↔ .flag flag ∈ tokens
  config : ∀ path, a.config = some path ↔ LastConfig tokens path
  noConfig : a.config = none ↔ ∀ path, .config path ∉ tokens

def followedBy (first second : Arguments) : Arguments where
  config := second.config.or first.config
  verbose := first.verbose || second.verbose
  noName := first.noName || second.noName
  help := first.help || second.help

def withToken (a : Arguments) : Token → Arguments
  | .flag .verbose => { a with verbose := true }
  | .flag .noName => { a with noName := true }
  | .flag .help => { a with help := true }
  | .config path => { a with config := some path }

structure Reading (words : List String) : Prop where
  splitting : (∃ a, read words = .ok a) ↔ ∃! tokens, Splits words tokens
  accepted : ∀ a, read words = .ok a ↔ ∃ tokens, Splits words tokens ∧ Gives tokens a
  refused : ∀ e text, (read words = .error e ∧ e.message = text) ↔
    ∃ front tokens rest, words = front ++ rest ∧ Splits front tokens ∧ Stops rest e text
  followed : ∀ a more, read words = .ok a → read (words ++ more) = (read more).map a.followedBy

section

variable {a b : Arguments} {token : Token} {tokens : List Token} {front rest words : List String}

theorem eq_of_has (hflags : ∀ flag, a.has flag = b.has flag) (hconfig : a.config = b.config) :
    a = b := by
  obtain ⟨config, verbose, noName, help⟩ := a
  obtain rfl : config = b.config := hconfig
  obtain rfl : verbose = b.verbose := hflags .verbose
  obtain rfl : noName = b.noName := hflags .noName
  obtain rfl : help = b.help := hflags .help
  rfl

@[simp] theorem has_withToken (a : Arguments) (token : Token) (flag : Flag) :
    (a.withToken token).has flag = (a.has flag || token == .flag flag) := by
  cases token with
  | config => simp [withToken, has]
  | flag given => cases given <;> cases flag <;> simp [withToken, has]

@[simp] theorem config_withFlag (a : Arguments) (flag : Flag) :
    (a.withToken (.flag flag)).config = a.config := by
  cases flag <;> rfl

theorem Gives.unique (ha : Gives tokens a) (hb : Gives tokens b) : a = b := by
  refine eq_of_has (fun flag => ?_) (Option.ext fun path => ?_)
  · rw [Bool.eq_iff_iff, ha.flags, hb.flags]
  · rw [ha.config, hb.config]

theorem lastConfig_flag {flag : Flag} {path : String} :
    LastConfig (tokens ++ [.flag flag]) path ↔ LastConfig tokens path := by
  constructor
  · rintro ⟨before, after, htokens, hafter⟩
    rcases after.eq_nil_or_concat' with rfl | ⟨inner, last, rfl⟩
    · exact nomatch (List.append_inj' htokens rfl).2
    · rw [← List.cons_append, ← List.append_assoc] at htokens
      obtain ⟨rfl, -⟩ := List.append_inj' htokens rfl
      exact ⟨before, inner, rfl, fun other hm => hafter other (List.mem_append_left _ hm)⟩
  · rintro ⟨before, after, rfl, hafter⟩
    exact ⟨before, after ++ [.flag flag], by simp, by simpa using hafter⟩

theorem lastConfig_config {path other : String} :
    LastConfig (tokens ++ [.config path]) other ↔ path = other := by
  constructor
  · rintro ⟨before, after, htokens, hafter⟩
    rcases after.eq_nil_or_concat' with rfl | ⟨inner, last, rfl⟩
    · exact Token.config.inj (List.cons.inj (List.append_inj' htokens rfl).2).1
    · rw [← List.cons_append, ← List.append_assoc] at htokens
      obtain ⟨-, hlast⟩ := List.append_inj' htokens rfl
      obtain rfl := (List.cons.inj hlast).1
      exact absurd (List.mem_append_right inner List.mem_cons_self) (hafter path)
  · rintro rfl
    exact ⟨tokens, [], rfl, fun _ => List.not_mem_nil⟩

theorem gives_initial : Gives [] initial := by
  constructor
  case flags =>
    intro flag
    cases flag <;> exact iff_of_false Bool.false_ne_true List.not_mem_nil
  case config => simp [initial, LastConfig]
  case noConfig => simp [initial]

theorem Gives.withToken (h : Gives tokens a) (token : Token) :
    Gives (tokens ++ [token]) (a.withToken token) := by
  have hflags : ∀ flag, (a.withToken token).has flag = true ↔ .flag flag ∈ tokens ++ [token] := by
    intro flag
    rw [has_withToken, Bool.or_eq_true, h.flags, beq_iff_eq, List.mem_append, List.mem_singleton,
      eq_comm (a := token)]
  cases token with
  | flag flag =>
    refine ⟨hflags, fun path => ?_, ?_⟩
    · rw [config_withFlag, h.config, lastConfig_flag]
    · rw [config_withFlag, h.noConfig]
      simp
  | config path =>
    refine ⟨hflags, fun other => ?_, ?_⟩
    · rw [Arguments.withToken, Option.some_inj, lastConfig_config]
    · refine iff_of_false (Option.some_ne_none path) fun hnone => ?_
      exact hnone path (List.mem_append_right _ List.mem_cons_self)

/-- Tokens add up to what they give. -/
theorem gives_foldl (tokens : List Token) : Gives tokens (tokens.foldl withToken initial) := by
  -- From the end, where a path takes the place of those before it.
  induction tokens using List.reverseRecOn with
  | nil => exact gives_initial
  | append_singleton tokens token ih =>
    rw [List.foldl_append]
    exact ih.withToken token

theorem readOnto_token (h : token.Written words) (a : Arguments) (rest : List String) :
    readOnto a (words ++ rest) = readOnto (a.withToken token) rest := by
  cases h with
  | @flag flag word h =>
    cases flag <;> simp only [Flag.words, List.mem_cons, List.not_mem_nil, or_false] at h
    case noName => subst h; simp [readOnto, withToken]
    all_goals rcases h with rfl | rfl <;> simp [readOnto, withToken]
  | config h path =>
    simp only [configWords, List.mem_cons, List.not_mem_nil, or_false] at h
    rcases h with rfl | rfl <;> simp [readOnto, withToken]

theorem readOnto_splits (h : Splits front tokens) (a : Arguments) (rest : List String) :
    readOnto a (front ++ rest) = readOnto (tokens.foldl withToken a) rest := by
  induction h generalizing a with
  | nil => rfl
  | cons written _ ih => rw [List.append_assoc, readOnto_token written, ih, List.foldl_cons]

theorem read_splits (h : Splits words tokens) :
    read words = .ok (tokens.foldl withToken initial) := by
  have hread := readOnto_splits h initial []
  rwa [List.append_nil, readOnto] at hread

theorem readOnto_unknown {word : String} (noFlag : ∀ flag : Flag, word ∉ flag.words)
    (noConfig : word ∉ configWords) (a : Arguments) (rest : List String) :
    readOnto a (word :: rest) = .error (.unknown word) := by
  unfold readOnto
  split
  case h_1 | h_2 => exact absurd (by decide) noConfig
  case h_3 | h_4 => exact absurd (by decide) (noFlag .verbose)
  case h_5 => exact absurd (by decide) (noFlag .noName)
  case h_6 | h_7 => exact absurd (by decide) (noFlag .help)
  case h_8 => rfl

theorem readOnto_stops {e : ArgumentsError} {text : String} (h : Stops rest e text)
    (a : Arguments) : readOnto a rest = .error e ∧ e.message = text := by
  cases h with
  | @unknown word rest noFlag noConfig => exact ⟨readOnto_unknown noFlag noConfig a rest, rfl⟩
  | noPath h =>
    simp only [configWords, List.mem_cons, List.not_mem_nil, or_false] at h
    rcases h with rfl | rfl <;> exact ⟨rfl, rfl⟩

theorem splits_of_read (h : read words = .ok a) :
    ∃ tokens, Splits words tokens ∧ Gives tokens a := by
  obtain ⟨front, tokens, behind, rfl, hsplits, rfl | ⟨e, text, hstops⟩⟩ := divided words
  · rw [List.append_nil] at h ⊢
    obtain rfl := Except.ok.inj (h.symm.trans (read_splits hsplits))
    exact ⟨tokens, hsplits, gives_foldl tokens⟩
  · rw [read, readOnto_splits hsplits, (readOnto_stops hstops _).1] at h
    cases h

theorem stops_of_read {e : ArgumentsError} (h : read words = .error e) :
    ∃ front tokens behind, words = front ++ behind ∧ Splits front tokens ∧
      Stops behind e e.message := by
  obtain ⟨front, tokens, behind, rfl, hsplits, rfl | ⟨found, text, hstops⟩⟩ := divided words
  · rw [List.append_nil, read_splits hsplits] at h
    cases h
  · obtain ⟨hread, rfl⟩ := readOnto_stops hstops (tokens.foldl withToken initial)
    rw [read, readOnto_splits hsplits] at h
    obtain rfl := Except.error.inj (h.symm.trans hread)
    exact ⟨front, tokens, behind, rfl, hsplits, hstops⟩

@[simp] theorem followedBy_initial (a : Arguments) : a.followedBy initial = a := by
  simp [followedBy, initial]

theorem followedBy_withToken (a b : Arguments) (token : Token) :
    (a.followedBy b).withToken token = a.followedBy (b.withToken token) := by
  cases token with
  | flag flag => cases flag <;> simp [followedBy, withToken]
  | config path => simp [followedBy, withToken]

theorem foldl_followedBy (a b : Arguments) (tokens : List Token) :
    tokens.foldl withToken (a.followedBy b) = a.followedBy (tokens.foldl withToken b) := by
  induction tokens generalizing b with
  | nil => rfl
  | cons token tokens ih => rw [List.foldl_cons, followedBy_withToken, ih, List.foldl_cons]

/-- What was read before is kept where the arguments give nothing else, and makes no difference to
whether they can be read. -/
theorem readOnto_eq_map (a : Arguments) (words : List String) :
    readOnto a words = (read words).map a.followedBy := by
  obtain ⟨front, tokens, behind, rfl, hsplits, hend⟩ := divided words
  rw [read, readOnto_splits hsplits, readOnto_splits hsplits]
  obtain rfl | ⟨e, text, hstops⟩ := hend
  · rw [readOnto, readOnto, Except.map, ← foldl_followedBy, followedBy_initial]
  · rw [(readOnto_stops hstops _).1, (readOnto_stops hstops _).1, Except.map]

end

/-- Arguments are read as the tokens that they split into, and what follows them is read as if it
stood alone. -/
theorem arguments_read_by_token (words : List String) : Reading words := by
  constructor
  case splitting =>
    constructor
    · rintro ⟨a, h⟩
      obtain ⟨tokens, hsplits, -⟩ := splits_of_read h
      exact ⟨tokens, hsplits, fun others hothers => splits_unique hothers hsplits⟩
    · rintro ⟨tokens, hsplits, -⟩
      exact ⟨_, read_splits hsplits⟩
  case accepted =>
    intro a
    refine ⟨splits_of_read, ?_⟩
    rintro ⟨tokens, hsplits, hgives⟩
    rw [hgives.unique (gives_foldl tokens), read_splits hsplits]
  case refused =>
    intro e text
    constructor
    · rintro ⟨h, rfl⟩
      exact stops_of_read h
    · rintro ⟨front, tokens, rest, rfl, hsplits, hstops⟩
      rw [read, readOnto_splits hsplits]
      exact readOnto_stops hstops _
  case followed =>
    intro a more h
    obtain ⟨tokens, hsplits, hgives⟩ := splits_of_read h
    rw [hgives.unique (gives_foldl tokens), read, readOnto_splits hsplits, readOnto_eq_map]

/-- The path looks like a flag, and the words that follow are read as tokens of their own. -/
theorem arguments_read_by_token_sample :
    read ["-v", "-c", "--help"] = .ok ⟨some "--help", true, false, false⟩ ∧
      read (["-v", "-c", "--help"] ++ ["-h"]) = .ok ⟨some "--help", true, false, true⟩ ∧
      read (["-v", "-c", "--help"] ++ ["-h", "-c"]) = .error .noPath := by
  have hread : read ["-v", "-c", "--help"] = .ok ⟨some "--help", true, false, false⟩ := rfl
  have hreading := arguments_read_by_token ["-v", "-c", "--help"]
  exact ⟨hread, hreading.followed _ ["-h"] hread, hreading.followed _ ["-h", "-c"] hread⟩

end Arguments

end PriorityPortal.CommandLine
