import Mathlib.Data.List.Pairwise
import PriorityPortal.Settings.Document
/-!
# Documents over the defaults

A document is laid over the defaults: what it gives is taken from it, and what it leaves out keeps
its default. This is so for the sections of a document and for the settings of a section alike, in
whatever order they stand and whatever else stands between them.
-/
namespace PriorityPortal

/-- What settings are made of, by name: how a value from a document is set, which value stands for
what is set, and when two settings are the same in a part. -/
structure Parts (σ : Type) where
  names : List String
  set : σ → String → Toml.Value → FromDocument σ
  Gives : σ → String → Toml.Value → Prop
  Agree : String → σ → σ → Prop

namespace Parts

variable {σ : Type}

/-- Setting a part sets that part alone, and the parts are all that there is. -/
structure Lawful (P : Parts σ) : Prop where
  unknown : ∀ s {name} v, name ∉ P.names → P.set s name v = .ok s
  known : ∀ s {c name v}, name ∈ P.names → P.Gives c name v →
    ∃ t, P.set s name v = .ok t ∧ P.Agree name c t
  others : ∀ {s t name other v}, P.set s name v = .ok t → other ≠ name → P.Agree other s t
  trans : ∀ {name s t u}, P.Agree name s t → P.Agree name t u → P.Agree name s u
  ext : ∀ {s t}, (∀ name ∈ P.names, P.Agree name s t) → s = t

/-- Entries give parts of `c`, and where they leave a part out `c` has the default. Entries of other
names may stand among them. -/
structure Overlays (P : Parts σ) (standard c : σ) (entries : Toml.Table) : Prop where
  held : ∀ name ∈ P.names, ∀ v, (name, v) ∈ entries → P.Gives c name v
  leftOut : ∀ name ∈ P.names, name ∉ entries.map (·.1) → P.Agree name c standard

/-- A section that gives `c`: a table, or a list of values in the order of the names. -/
inductive Given (P : Parts σ) (standard c : σ) : Toml.Value → Prop where
  | table {entries} (overlays : P.Overlays standard c entries) : Given P standard c (.table entries)
  | array {items : List Toml.Value}
      (held : ∀ (i : Nat) name v, P.names[i]? = some name → items[i]? = some v → P.Gives c name v)
      (leftOut : ∀ (i : Nat) name, P.names[i]? = some name → items.length ≤ i →
        P.Agree name c standard) :
      Given P standard c (.array items)

def byValue (names : List String) (set : σ → String → Toml.Value → FromDocument σ)
    (value? : σ → String → Option Toml.Value) : Parts σ where
  names := names
  set := set
  Gives s name v := value? s name = some v
  Agree name s t := value? s name = value? t name

def setAll (P : Parts σ) (s : σ) (entries : Toml.Table) : FromDocument σ :=
  entries.foldlM (fun s (name, v) => P.set s name v) s

variable {P : Parts σ} {standard c s t : σ} {name : String} {v : Toml.Value} {entries : Toml.Table}

theorem setAll_cons (h : P.set s name v = .ok t) :
    P.setAll s ((name, v) :: entries) = P.setAll t entries := by
  rw [setAll, List.foldlM_cons]
  simp only [h]
  rfl

theorem setAll_cons_ok (h : P.setAll s ((name, v) :: entries) = .ok t) :
    ∃ u, P.set s name v = .ok u ∧ P.setAll u entries = .ok t := by
  cases hset : P.set s name v with
  | ok u => exact ⟨u, rfl, (setAll_cons hset).symm.trans h⟩
  | error e =>
    rw [setAll, List.foldlM_cons] at h
    simp only [hset] at h
    cases h

theorem Lawful.read_overlay (h : P.Lawful) (ho : P.Overlays s c entries) :
    P.setAll s entries = .ok c := by
  -- What is still to be read is laid over what has been read so far.
  induction entries generalizing s with
  | nil =>
    obtain rfl : c = s := h.ext fun name hname => ho.leftOut name hname List.not_mem_nil
    rfl
  | cons entry entries ih =>
    obtain ⟨name, v⟩ := entry
    have hheld : ∀ other ∈ P.names, ∀ w, (other, w) ∈ entries → P.Gives c other w :=
      fun other hother w hw => ho.held other hother w (List.mem_cons_of_mem _ hw)
    by_cases hname : name ∈ P.names
    · obtain ⟨t, hset, hagree⟩ := h.known s hname (ho.held name hname v List.mem_cons_self)
      rw [setAll_cons hset]
      refine ih ⟨hheld, fun other hother hleft => ?_⟩
      by_cases heq : other = name
      · exact heq ▸ hagree
      · have hstart := ho.leftOut other hother (by simpa [heq] using hleft)
        exact h.trans hstart (h.others hset heq)
    · rw [setAll_cons (h.unknown s v hname)]
      refine ih ⟨hheld, fun other hother hleft => ho.leftOut other hother ?_⟩
      have heq : other ≠ name := fun heq => hname (heq ▸ hother)
      simpa [heq] using hleft

/-- A list stands for the table of its values under the names in order. -/
theorem overlays_zip {items : List Toml.Value}
    (held : ∀ (i : Nat) name v, P.names[i]? = some name → items[i]? = some v → P.Gives c name v)
    (leftOut : ∀ (i : Nat) name, P.names[i]? = some name → items.length ≤ i →
      P.Agree name c standard) :
    P.Overlays standard c (P.names.zip items) := by
  constructor
  · intro name hname v hv
    obtain ⟨i, hi⟩ := List.mem_iff_getElem?.mp hv
    obtain ⟨hni, hvi⟩ := List.getElem?_zip_eq_some.mp hi
    exact held i name v hni hvi
  · intro name hname hleft
    obtain ⟨i, hi⟩ := List.mem_iff_getElem?.mp hname
    refine leftOut i name hi (Nat.le_of_not_lt fun hlt => hleft ?_)
    have hzip : (P.names.zip items)[i]? = some (name, items[i]) :=
      List.getElem?_zip_eq_some.mpr ⟨hi, List.getElem?_eq_getElem hlt⟩
    exact List.mem_map.mpr ⟨_, List.mem_of_getElem? hzip, rfl⟩

theorem Lawful.read_given (h : P.Lawful) (hv : P.Given standard c v)
    (place : Section) : Settings.readSection place P.names P.set standard v = .ok c := by
  cases hv with
  | table overlays => exact h.read_overlay overlays
  | array held leftOut => exact h.read_overlay (overlays_zip held leftOut)

/-- A part that every entry of its name gives as it was stays so. -/
theorem Lawful.read_keeps (h : P.Lawful) (hname : name ∈ P.names)
    (held : ∀ v, (name, v) ∈ entries → P.Gives c name v) (hs : P.Agree name c s)
    (read : P.setAll s entries = .ok t) : P.Agree name c t := by
  induction entries generalizing s with
  | nil =>
    obtain rfl : s = t := Except.ok.inj read
    exact hs
  | cons entry entries ih =>
    obtain ⟨other, v⟩ := entry
    obtain ⟨u, hset, hrest⟩ := setAll_cons_ok read
    refine ih (fun w hw => held w (List.mem_cons_of_mem _ hw)) ?_ hrest
    by_cases heq : name = other
    · subst heq
      obtain ⟨u', hset', hagree⟩ := h.known s hname (held v List.mem_cons_self)
      obtain rfl : u = u' := Except.ok.inj (hset.symm.trans hset')
      exact hagree
    · exact h.trans hs (h.others hset heq)

def explicit (names : List String) (value? : σ → String → Option Toml.Value) (s : σ) : Toml.Table :=
  names.filterMap fun name => (value? s name).map fun v => (name, v)

/-- Nothing, and every default in so many words, both give the defaults. -/
theorem byValue_given_standard (names : List String)
    (set : σ → String → Toml.Value → FromDocument σ) (value? : σ → String → Option Toml.Value)
    (standard : σ) :
    (byValue names set value?).Given standard standard (.table []) ∧
      (byValue names set value?).Given standard standard (.array []) ∧
      (byValue names set value?).Given standard standard
        (.table (explicit names value? standard)) := by
  refine ⟨.table ⟨?_, fun _ _ _ => rfl⟩, .array ?_ fun _ _ _ _ => rfl,
    .table ⟨?_, fun _ _ _ => rfl⟩⟩
  · intro name hname v hv
    cases hv
  · intro i name v hname hv
    cases hv
  · intro name hname v hv
    obtain ⟨given, -, hgiven⟩ := List.mem_filterMap.mp hv
    obtain ⟨w, hw, hpair⟩ := Option.map_eq_some_iff.mp hgiven
    obtain ⟨rfl, rfl⟩ := Prod.mk.inj hpair
    exact hw

end Parts

theorem map_ok {α β : Type} {f : α → β} {x : FromDocument α} {b : β} (h : x.map f = .ok b) :
    ∃ a, x = .ok a ∧ f a = b := by
  cases x with
  | error e => cases h
  | ok a => exact ⟨a, rfl, Except.ok.inj h⟩

/-- A setting of its own: how it is read and written, and where it stands among the others. One
that is not set is not there. -/
structure Setting (σ : Type) where
  name : String
  {α : Type}
  read : Toml.Value → FromDocument α
  write : α → Toml.Value
  get : σ → Option α
  put : σ → α → σ
  read_write : ∀ a, read (write a) = .ok a
  get_put : ∀ s a, get (put s a) = some a

namespace Setting

variable {σ : Type} {f g : Setting σ} {settings : List (Setting σ)} {s t : σ} {name : String}
  {v : Toml.Value}

def value? (f : Setting σ) (s : σ) : Option Toml.Value := (f.get s).map f.write

def setOf (settings : List (Setting σ)) (s : σ) (name : String) (v : Toml.Value) : FromDocument σ :=
  match settings.find? (name = ·.name) with
  | none => .ok s
  | some f => (f.read v).map (f.put s)

def valueOf? (settings : List (Setting σ)) (s : σ) (name : String) : Option Toml.Value :=
  (settings.find? (name = ·.name)).bind fun f => f.value? s

def Apart (f g : Setting σ) : Prop :=
  (∀ s a, g.get (f.put s a) = g.get s) ∧ ∀ s a, f.get (g.put s a) = f.get s

instance : Std.Symm (@Apart σ) where
  symm _ _ h := ⟨h.2, h.1⟩

/-- What is written tells what was set. -/
theorem get_eq_of_value (h : f.value? s = f.value? t) : f.get s = f.get t := by
  refine Option.map_injective (fun a b hab => ?_) h
  have hread := congrArg f.read hab
  rw [f.read_write, f.read_write] at hread
  exact Except.ok.inj hread

theorem find_name (hnames : (settings.map (·.name)).Nodup) (hf : f ∈ settings) :
    settings.find? (f.name = ·.name) = some f := by
  induction settings with
  | nil => cases hf
  | cons g settings ih =>
    obtain ⟨hother, hrest⟩ := List.nodup_cons.mp hnames
    rcases List.mem_cons.mp hf with rfl | hf
    · simp
    · have hne : f.name ≠ g.name := by
        intro h
        exact hother (List.mem_map.mpr ⟨f, hf, h⟩)
      simpa [hne] using ih hrest hf

theorem name_of_find (h : settings.find? (name = ·.name) = some f) :
    f ∈ settings ∧ f.name = name :=
  ⟨List.mem_of_find?_eq_some h, Eq.symm (by simpa using List.find?_some h)⟩

/-- Settings that are apart from one another, and are all that there is, are lawful parts. -/
theorem parts_lawful (settings : List (Setting σ)) {set : σ → String → Toml.Value → FromDocument σ}
    {value? : σ → String → Option Toml.Value}
    (sets : ∀ s name v, set s name v = setOf settings s name v)
    (values : ∀ s name, value? s name = valueOf? settings s name)
    (names : (settings.map (·.name)).Nodup) (apart : settings.Pairwise Apart)
    (all : ∀ s t : σ, (∀ f ∈ settings, f.get s = f.get t) → s = t) :
    (Parts.byValue (settings.map (·.name)) set value?).Lawful := by
  obtain rfl : set = setOf settings := by
    funext s name v
    exact sets s name v
  obtain rfl : value? = valueOf? settings := by
    funext s name
    exact values s name
  constructor
  case unknown =>
    intro s name v hname
    have hnone : settings.find? (name = ·.name) = none := by
      refine List.find?_eq_none.mpr fun f hf hn => hname ?_
      exact List.mem_map.mpr ⟨f, hf, Eq.symm (by simpa using hn)⟩
    change setOf settings s name v = .ok s
    simp only [setOf, hnone]
  case known =>
    intro s c name v _ hgives
    obtain ⟨f, hfind, hvalue⟩ := Option.bind_eq_some_iff.mp hgives
    obtain ⟨a, hget, rfl⟩ := Option.map_eq_some_iff.mp hvalue
    refine ⟨f.put s a, ?_, hgives.trans ?_⟩
    · change setOf settings s name (f.write a) = _
      simp only [setOf, hfind, f.read_write]
      rfl
    · simp [valueOf?, hfind, Setting.value?, f.get_put]
  case others =>
    intro s t name other v hset hne
    change valueOf? settings s other = valueOf? settings t other
    change setOf settings s name v = .ok t at hset
    unfold setOf at hset
    cases hfind : settings.find? (name = ·.name) with
    | none =>
      simp only [hfind, Except.ok.injEq] at hset
      rw [hset]
    | some f =>
      simp only [hfind] at hset
      obtain ⟨a, -, rfl⟩ := map_ok hset
      cases hother : settings.find? (other = ·.name) with
      | none => simp [valueOf?, hother]
      | some g =>
        obtain ⟨hf, rfl⟩ := name_of_find hfind
        obtain ⟨hg, rfl⟩ := name_of_find hother
        have hkeeps := (apart.forall hf hg fun h => hne (h ▸ rfl)).1 s a
        simp [valueOf?, hother, Setting.value?, hkeeps]
  case trans => exact fun hst htu => hst.trans htu
  case ext =>
    intro s t h
    refine all s t fun f hf => get_eq_of_value ?_
    have hvalue : valueOf? settings s f.name = valueOf? settings t f.name :=
      h f.name (List.mem_map_of_mem hf)
    simpa [valueOf?, find_name names hf] using hvalue

end Setting

def PortalSettings.value? (s : PortalSettings) : String → Option Toml.Value
  | "object_path" => some (.string s.objectPath)
  | "bus_name" => some (.string s.busName)
  | "request_name" => some (.boolean s.requestName)
  | "bus_address" => s.busAddress.map .string
  | _ => none

def KitSettings.value? (s : KitSettings) : String → Option Toml.Value
  | "service" => some (.string s.service)
  | "object_path" => some (.string s.objectPath)
  | "interface" => some (.string s.interface)
  | "high_priority_routing" => some (.string s.routing.text)
  | "bus_address" => s.busAddress.map .string
  | _ => none

def SandboxSettings.value? (s : SandboxSettings) : String → Option Toml.Value
  | "proc_root" => some (.string s.procRoot)
  | _ => none

def LoggingSettings.value? (s : LoggingSettings) : String → Option Toml.Value
  | "filter" => some (.string s.filter)
  | _ => none

def PortalSettings.parts : Parts PortalSettings :=
  .byValue PortalSettings.names PortalSettings.set PortalSettings.value?

def KitSettings.parts : Parts KitSettings :=
  .byValue KitSettings.names KitSettings.set KitSettings.value?

def SandboxSettings.parts : Parts SandboxSettings :=
  .byValue SandboxSettings.names SandboxSettings.set SandboxSettings.value?

def LoggingSettings.parts : Parts LoggingSettings :=
  .byValue LoggingSettings.names LoggingSettings.set LoggingSettings.value?

theorem Settings.readRouting_text (r : Routing) : readRouting (.string r.text) = .ok r := by
  rw [readRouting, routingOf, Routing.ofText?_text]

def PortalSettings.settings : List (Setting PortalSettings) :=
  [⟨"object_path", Settings.readString, .string, fun s => some s.objectPath,
      fun s path => { s with objectPath := path }, fun _ => rfl, fun _ _ => rfl⟩,
    ⟨"bus_name", Settings.readString, .string, fun s => some s.busName,
      fun s name => { s with busName := name }, fun _ => rfl, fun _ _ => rfl⟩,
    ⟨"request_name", Settings.readBoolean, .boolean, fun s => some s.requestName,
      fun s b => { s with requestName := b }, fun _ => rfl, fun _ _ => rfl⟩,
    ⟨"bus_address", Settings.readString, .string, PortalSettings.busAddress,
      fun s a => { s with busAddress := some a }, fun _ => rfl, fun _ _ => rfl⟩]

theorem PortalSettings.parts_lawful : PortalSettings.parts.Lawful := by
  refine Setting.parts_lawful settings ?sets ?values (by decide)
    (by simp [settings, Setting.Apart]) ?all
  case sets =>
    intro s name v
    unfold set
    split <;> simp_all [Setting.setOf, settings]
  case values =>
    intro s name
    unfold value?
    split <;> simp_all [Setting.valueOf?, Setting.value?, settings]
  case all =>
    rintro ⟨⟩ ⟨⟩ h
    simpa [settings] using h

def KitSettings.settings : List (Setting KitSettings) :=
  [⟨"service", Settings.readString, .string, fun s => some s.service,
      fun s name => { s with service := name }, fun _ => rfl, fun _ _ => rfl⟩,
    ⟨"object_path", Settings.readString, .string, fun s => some s.objectPath,
      fun s path => { s with objectPath := path }, fun _ => rfl, fun _ _ => rfl⟩,
    ⟨"interface", Settings.readString, .string, fun s => some s.interface,
      fun s name => { s with interface := name }, fun _ => rfl, fun _ _ => rfl⟩,
    ⟨"high_priority_routing", Settings.readRouting, fun r => .string r.text,
      fun s => some s.routing, fun s r => { s with routing := r }, Settings.readRouting_text,
      fun _ _ => rfl⟩,
    ⟨"bus_address", Settings.readString, .string, KitSettings.busAddress,
      fun s a => { s with busAddress := some a }, fun _ => rfl, fun _ _ => rfl⟩]

theorem KitSettings.parts_lawful : KitSettings.parts.Lawful := by
  refine Setting.parts_lawful settings ?sets ?values (by decide)
    (by simp [settings, Setting.Apart]) ?all
  case sets =>
    intro s name v
    unfold set
    split <;> simp_all [Setting.setOf, settings]
  case values =>
    intro s name
    unfold value?
    split <;> simp_all [Setting.valueOf?, Setting.value?, settings]
  case all =>
    rintro ⟨⟩ ⟨⟩ h
    simpa [settings] using h

def SandboxSettings.settings : List (Setting SandboxSettings) :=
  [⟨"proc_root", Settings.readFilePath, .string, fun s => some s.procRoot,
    fun s path => { s with procRoot := path }, fun _ => rfl, fun _ _ => rfl⟩]

theorem SandboxSettings.parts_lawful : SandboxSettings.parts.Lawful := by
  refine Setting.parts_lawful settings ?sets ?values (by decide)
    (by simp [settings, Setting.Apart]) ?all
  case sets =>
    intro s name v
    unfold set
    split <;> simp_all [Setting.setOf, settings]
  case values =>
    intro s name
    unfold value?
    split <;> simp_all [Setting.valueOf?, Setting.value?, settings]
  case all =>
    rintro ⟨⟩ ⟨⟩ h
    simpa [settings] using h

def LoggingSettings.settings : List (Setting LoggingSettings) :=
  [⟨"filter", Settings.readString, .string, fun s => some s.filter,
    fun s filter => { s with filter := filter }, fun _ => rfl, fun _ _ => rfl⟩]

theorem LoggingSettings.parts_lawful : LoggingSettings.parts.Lawful := by
  refine Setting.parts_lawful settings ?sets ?values (by decide)
    (by simp [settings, Setting.Apart]) ?all
  case sets =>
    intro s name v
    unfold set
    split <;> simp_all [Setting.setOf, settings]
  case values =>
    intro s name
    unfold value?
    split <;> simp_all [Setting.valueOf?, Setting.value?, settings]
  case all =>
    rintro ⟨⟩ ⟨⟩ h
    simpa [settings] using h

namespace Settings

def names : List String := ["portal", "realtimekit", "sandbox", "logging"]

def Gives (c : Settings) (name : String) (v : Toml.Value) : Prop :=
  match name with
  | "portal" => PortalSettings.parts.Given .standard c.portal v
  | "realtimekit" => KitSettings.parts.Given .standard c.kit v
  | "sandbox" => SandboxSettings.parts.Given .standard c.sandbox v
  | "logging" => LoggingSettings.parts.Given .standard c.logging v
  | _ => False

def Agree (name : String) (s t : Settings) : Prop :=
  match name with
  | "portal" => s.portal = t.portal
  | "realtimekit" => s.kit = t.kit
  | "sandbox" => s.sandbox = t.sandbox
  | "logging" => s.logging = t.logging
  | _ => True

def parts : Parts Settings := ⟨names, set, Gives, Agree⟩

theorem parts_lawful : parts.Lawful := by
  constructor
  case unknown =>
    intro s name v hname
    simp only [parts, set]
    split <;> first | rfl | exact absurd (by decide) hname
  case known =>
    intro s c name v hname hgives
    simp only [parts, Gives] at hgives
    split at hgives
    · rw [← PortalSettings.unset_eq] at hgives
      have hread := PortalSettings.parts_lawful.read_given hgives .portal
      exact ⟨{ s with portal := c.portal }, congrArg (Except.map _) hread, rfl⟩
    · rw [← KitSettings.unset_eq] at hgives
      have hread := KitSettings.parts_lawful.read_given hgives .realtimekit
      exact ⟨{ s with kit := c.kit }, congrArg (Except.map _) hread, rfl⟩
    · rw [← SandboxSettings.unset_eq] at hgives
      have hread := SandboxSettings.parts_lawful.read_given hgives .sandbox
      exact ⟨{ s with sandbox := c.sandbox }, congrArg (Except.map _) hread, rfl⟩
    · rw [← LoggingSettings.unset_eq] at hgives
      have hread := LoggingSettings.parts_lawful.read_given hgives .logging
      exact ⟨{ s with logging := c.logging }, congrArg (Except.map _) hread, rfl⟩
    · exact hgives.elim
  case others =>
    intro s t name other v hset hne
    simp only [parts, set] at hset
    simp only [parts, Agree]
    split at hset
    case h_5 =>
      cases hset
      split <;> trivial
    all_goals
      obtain ⟨given, -, rfl⟩ := map_ok hset
      split <;> first | rfl | exact absurd rfl hne | trivial
  case trans =>
    intro name s t u hst htu
    simp only [parts, Agree] at *
    split <;> simp_all
  case ext =>
    intro s t h
    obtain ⟨_, _, _, _⟩ := s
    obtain ⟨_, _, _, _⟩ := t
    simpa [parts, names, Agree] using h

def entries (c : Settings) (name : String) : Toml.Table :=
  match name with
  | "portal" => Parts.explicit PortalSettings.names PortalSettings.value? c.portal
  | "realtimekit" => Parts.explicit KitSettings.names KitSettings.value? c.kit
  | "sandbox" => Parts.explicit SandboxSettings.names SandboxSettings.value? c.sandbox
  | "logging" => Parts.explicit LoggingSettings.names LoggingSettings.value? c.logging
  | _ => []

theorem standard_given {name : String} (hname : name ∈ names) :
    Settings.standard.Gives name (.table []) ∧ Settings.standard.Gives name (.array []) ∧
      Settings.standard.Gives name (.table (Settings.standard.entries name)) := by
  simp only [names, List.mem_cons, List.not_mem_nil, or_false] at hname
  rcases hname with rfl | rfl | rfl | rfl
  all_goals exact Parts.byValue_given_standard ..

/-- A document that holds settings or leaves them out where they have their defaults gives these
settings, with whatever else it holds. So a section that is missing has its defaults whatever the
rest of the document gives, and so has one that gives them. -/
theorem documents_overlay_standard :
    (∀ (c : Settings) (document : Toml.Table), c.validate = .ok () →
      parts.Overlays .standard c document →
      ofDocument document = .ok c ∧
        ∀ text, Toml.parse? text = some document → Settings.parse text = .ok c) ∧
    (∀ name ∈ names, ∀ document s, ofDocument document = .ok s →
      (∀ v, (name, v) ∈ document → Settings.standard.Gives name v) → Agree name .standard s) ∧
    ∀ name ∈ names, Settings.standard.Gives name (.table []) ∧
      Settings.standard.Gives name (.array []) ∧
      Settings.standard.Gives name (.table (Settings.standard.entries name)) := by
  refine ⟨?_, ?_, fun name => standard_given⟩
  · intro c document valid overlays
    have hread : ofTable document = .ok c := parts_lawful.read_overlay overlays
    have hgives := ofDocument_ok_iff.mpr ⟨hread, valid⟩
    refine ⟨hgives, fun text htext => ?_⟩
    rw [Settings.parse, htext]
    exact hgives
  · intro name hname document s hread hgives
    have hstart : parts.Agree name .standard .standard := by
      simp only [parts, Agree]
      split <;> trivial
    exact parts_lawful.read_keeps hname hgives hstart (ofDocument_ok_iff.mp hread).1

def sampleSettings : Settings :=
  { Settings.standard with
    kit := { KitSettings.standard with routing := .legacy }
    logging := ⟨"debug"⟩ }

def sampleText : String :=
  "colour = 1979-05-27\nlogging = [\"debug\"]\n[realtimekit]\nnice = true\n" ++
    "high_priority_routing = \"legacy\"\n[sandbox]\n"

def sampleDocument : Toml.Table :=
  [("colour", .datetime "1979-05-27"), ("logging", .array [.string "debug"]),
    ("realtimekit", .table [("nice", .boolean true), ("high_priority_routing", .string "legacy")]),
    ("sandbox", .table [])]

theorem sampleText_parse : Toml.parse? sampleText = some sampleDocument := by
  decide +kernel

/-- The routing, the filter as a list, an empty section and names that mean nothing; the section
of the portal is left out. -/
theorem sampleDocument_overlays : parts.Overlays .standard sampleSettings sampleDocument := by
  constructor
  · intro name hname v hv
    simp only [sampleDocument, List.mem_cons, Prod.mk.injEq, List.not_mem_nil, or_false] at hv
    obtain ⟨rfl, rfl⟩ | ⟨rfl, rfl⟩ | ⟨rfl, rfl⟩ | ⟨rfl, rfl⟩ := hv
    case inl => exact absurd hname (by decide)
    case inr.inl =>
      refine .array (fun i name v hi hv => ?_) fun i name hi hlen => ?_
      · cases i with
        | zero =>
          obtain rfl := Option.some.inj hi
          obtain rfl := Option.some.inj hv
          rfl
        | succ i => cases hv
      · have hlt : i < 1 := (List.getElem?_eq_some_iff.mp hi).1
        exact absurd hlt (Nat.not_lt.mpr hlen)
    case inr.inr.inl =>
      refine .table ⟨fun name hname v hv => ?_, fun name hname hleft => ?_⟩
      · simp only [List.mem_cons, Prod.mk.injEq, List.not_mem_nil, or_false] at hv
        obtain ⟨rfl, rfl⟩ | ⟨rfl, rfl⟩ := hv
        · exact absurd hname (by decide)
        · rfl
      · have hne : name ≠ "high_priority_routing" := by
          rintro rfl
          exact hleft (by decide)
        show sampleSettings.kit.value? name = KitSettings.standard.value? name
        unfold KitSettings.value?
        split <;> first | rfl | exact absurd rfl hne
    case inr.inr.inr =>
      have hsandbox : "sandbox" ∈ names := by decide
      exact (standard_given hsandbox).1
  · intro name hname hleft
    have hportal : name = "portal" := by
      revert name
      decide
    subst hportal
    rfl

theorem documents_overlay_standard_sample :
    sampleSettings.validate = .ok () ∧ parts.Overlays .standard sampleSettings sampleDocument ∧
      Settings.parse sampleText = .ok sampleSettings ∧
      Agree "portal" .standard sampleSettings := by
  have valid : sampleSettings.validate = .ok () := rfl
  have hread := documents_overlay_standard.1 sampleSettings sampleDocument valid
    sampleDocument_overlays
  have hportal : ∀ v, ("portal", v) ∈ sampleDocument → Settings.standard.Gives "portal" v := by
    simp [sampleDocument]
  have hmissing := documents_overlay_standard.2.1 "portal" (by decide) sampleDocument _ hread.1
    hportal
  exact ⟨valid, sampleDocument_overlays, hread.2 sampleText sampleText_parse, hmissing⟩

end Settings

end PriorityPortal
