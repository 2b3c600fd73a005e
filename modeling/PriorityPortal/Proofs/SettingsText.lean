import PriorityPortal.Proofs.DocumentText
import PriorityPortal.Settings.Document
import PriorityPortal.Settings.Writer
/-!
# Settings that are written

Settings that pass the check are given back by the text that is written for them, whatever
characters their strings hold.
-/
namespace PriorityPortal.Settings

open Toml (Bare Block)

variable {s : Settings}

instance (name : String) : Decidable (Bare name) :=
  decidable_of_iff (name.toList ≠ [] ∧ name.toList.all Toml.isBareChar = true)
    ⟨fun h => ⟨h.1, List.all_eq_true.mp h.2⟩, fun h => ⟨h.nonempty, List.all_eq_true.mpr h.chars⟩⟩

/-- A block can be written if its names are the first of names that can. -/
theorem fit_of_names {name : String} {entries : List (String × Toml.Leaf)} (names : List String)
    (hnames : entries.map (·.1) <+: names)
    (hall : Bare name ∧ (∀ name ∈ names, Bare name) ∧ names.Nodup) : Block.Fit ⟨name, entries⟩ := by
  obtain ⟨hbare, hentries, hdistinct⟩ := hall
  refine ⟨hbare, fun entry hmem => ?_, hdistinct.sublist hnames.sublist⟩
  exact hentries entry.1 (hnames.subset (List.mem_map_of_mem hmem))

theorem blocks_fit (s : Settings) : ∀ block ∈ s.blocks, block.Fit := by
  obtain ⟨⟨_, _, _, portalAddress⟩, ⟨_, _, _, _, kitAddress⟩, _, _⟩ := s
  simp only [blocks, List.forall_mem_cons, List.not_mem_nil, false_implies, implies_true, and_true]
  refine ⟨?portal, ?kit, ?sandbox, ?logging⟩
  case portal =>
    refine fit_of_names PortalSettings.names ?_ (by decide)
    cases portalAddress with
    | none => exact ⟨["bus_address"], rfl⟩
    | some address => exact List.prefix_rfl
  case kit =>
    refine fit_of_names KitSettings.names ?_ (by decide)
    cases kitAddress with
    | none => exact ⟨["bus_address"], rfl⟩
    | some address => exact List.prefix_rfl
  case sandbox => exact fit_of_names SandboxSettings.names List.prefix_rfl (by decide)
  case logging => exact fit_of_names LoggingSettings.names List.prefix_rfl (by decide)

theorem ofTable_blocks (s : Settings) : ofTable (s.blocks.map Block.entry) = .ok s := by
  obtain ⟨⟨_, _, _, portalAddress⟩, ⟨_, _, _, routing, kitAddress⟩, _, _⟩ := s
  cases portalAddress <;> cases kitAddress <;> cases routing <;> rfl

/-- What is written is read back as it was, and the check decides. -/
theorem parse_text (s : Settings) : Settings.parse s.text = s.validate.map fun _ => s := by
  have hdistinct : (s.blocks.map Block.name).Nodup := by
    have hnames : s.blocks.map Block.name = ["portal", "realtimekit", "sandbox", "logging"] := rfl
    rw [hnames]
    decide
  have hdocument : Toml.parse? s.text = some (s.blocks.map Block.entry) :=
    Toml.parse?_writeBlocks (blocks_fit s) hdistinct
  simp only [parse, hdocument, ofDocument, ofTable_blocks]

/-- Settings that pass the check survive writing and reading. -/
theorem valid_settings_survive (valid : s.validate = .ok ()) : Settings.parse s.text = .ok s := by
  rw [parse_text, valid]
  rfl

/-- Settings with quotes of both kinds, line ends, control characters and nothing at all. -/
def awkward : Settings where
  portal := ⟨"/a", "quo\"ted.na\\me", false, some ""⟩
  kit := ⟨"two.li\r\nnes", "/", "con.tr\x01ols\t", .legacy, none⟩
  sandbox := ⟨"\"\"\"three'''\n"⟩
  logging := ⟨""⟩

theorem valid_settings_survive_sample :
    awkward.validate = .ok () ∧ Settings.parse awkward.text = .ok awkward := by
  have valid : awkward.validate = .ok () := by decide +kernel
  exact ⟨valid, valid_settings_survive valid⟩

end PriorityPortal.Settings
