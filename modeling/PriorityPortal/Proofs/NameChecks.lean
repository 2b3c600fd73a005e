import Mathlib.Data.List.Basic
import PriorityPortal.CommandLine.Service
import PriorityPortal.Proofs.NameGrammar
/-!
# Which settings can be used

Settings are checked when they are loaded, and their names and paths once more where they are used.
The first check finds what is empty or not set off as it should be. It does not find empty elements
in the middle of a path, nor characters, leading digits and lengths that a name cannot have.
-/
namespace PriorityPortal

open CommandLine (Arguments Environment Made)
open DBus (BusName Dotted Element ElementChar InterfaceName IsDigit ObjectPath Parted UniqueName
  WellKnownName)

section

variable {field : Field} {path name : String} {more cs : List Char} {a b c : Char}

theorem isPathChar_iff : isPathChar c = true ↔ c = '/' ∨ ElementChar [] c := by
  simp [isPathChar, ElementChar, or_comm]

structure PathPasses (path : String) : Prop where
  start : path.toList.head? = some '/'
  ending : path.toList.getLast? = some '/' → path = "/"
  chars : ∀ c ∈ path.toList, c = '/' ∨ ElementChar [] c

theorem eq_root_iff (h : path.toList.head? = some '/') : path = "/" ↔ ¬ 1 < path.toList.length := by
  rw [← String.toList_inj]
  cases hp : path.toList with
  | nil => simp [hp] at h
  | cons c cs =>
    obtain rfl : c = '/' := by simpa [hp] using h
    cases cs <;> simp

theorem checkPath_ok_iff : checkPath field path = .ok () ↔ PathPasses path := by
  unfold checkPath
  by_cases hstart : path.toList.head? = some '/'
  · have hroot := eq_root_iff hstart
    by_cases hend : 1 < path.toList.length ∧ path.toList.getLast? = some '/'
    · have hno : ¬ PathPasses path := fun h => hroot.mp (h.ending hend.2) hend.1
      simp [hstart, hend, hno]
    · have hending : path.toList.getLast? = some '/' → path = "/" :=
        fun hlast => hroot.mpr fun hlong => hend ⟨hlong, hlast⟩
      by_cases hchars : path.toList.all isPathChar = true
      · have hfit : ∀ c ∈ path.toList, c = '/' ∨ ElementChar [] c :=
          fun c hc => isPathChar_iff.mp (List.all_eq_true.mp hchars c hc)
        have hyes : PathPasses path := ⟨hstart, hending, hfit⟩
        simp [hstart, hend, hchars, hyes]
      · have hno : ¬ PathPasses path := fun h =>
          hchars (List.all_eq_true.mpr fun c hc => isPathChar_iff.mpr (h.chars c hc))
        simp [hstart, hend, hchars, hno]
  · have hno : ¬ PathPasses path := fun h => hstart h.start
    simp [hstart, hno]

/-- A name passes the check if it has parts, whatever these are made of. -/
theorem checkName_ok_iff : checkName field name = .ok () ↔ Parted name.toList := by
  simp only [checkName, Text.splitBy_eq_splitOn]
  by_cases hempty : name.isEmpty = true
  · obtain rfl : name = "" := by simpa using hempty
    have hno : ¬ Parted [] := fun h => absurd h.two (by decide)
    simp [hno]
  · by_cases hparts : (name.toList.splitOn '.').length < 2 ∨
        (name.toList.splitOn '.').any List.isEmpty = true
    · have hno : ¬ Parted name.toList := by
        intro h
        rcases hparts with hfew | hblank
        · exact Nat.not_lt.mpr h.two hfew
        · obtain ⟨part, hp, hnil⟩ := List.any_eq_true.mp hblank
          exact h.nonempty part hp (List.isEmpty_iff.mp hnil)
      rw [if_neg hempty, if_pos hparts]
      simp [hno]
    · obtain ⟨htwo, hblank⟩ := not_or.mp hparts
      have hyes : Parted name.toList := by
        refine ⟨Nat.not_lt.mp htwo, ?_⟩
        rintro part hp rfl
        exact hblank (List.any_eq_true.mpr ⟨[], hp, rfl⟩)
      rw [if_neg hempty, if_neg hparts]
      simp [hyes]

/-- What passes is a path if it has no two slashes in a row. -/
theorem PathPasses.objectPath_iff (h : PathPasses path) :
    ObjectPath path ↔ ¬ ['/', '/'] <:+: path.toList := by
  obtain ⟨cs, hcs⟩ : ∃ cs, path.toList = '/' :: cs := by
    have hstart := h.start
    cases hp : path.toList with
    | nil => simp [hp] at hstart
    | cons c cs =>
      obtain rfl : c = '/' := by simpa [hp] using hstart
      exact ⟨cs, rfl⟩
  by_cases hroot : path = "/"
  · subst hroot
    have hyes : ObjectPath "/" := Or.inl rfl
    simp [hyes, List.infix_cons_iff]
  · have hlast : path.toList.getLast? ≠ some '/' := fun hlast => hroot (h.ending hlast)
    have hsplit : path.toList.splitOn '/' = [] :: cs.splitOn '/' := by
      rw [hcs, Text.splitOn_cons_self]
    have hchars : ∀ part ∈ cs.splitOn '/', ∀ c ∈ part, ElementChar [] c := by
      rw [Text.forall_mem_splitOn]
      exact fun c hc => h.chars c (by simp [hcs, hc])
    have hpath : ObjectPath path ↔ ∀ element ∈ cs.splitOn '/', Element true [] element := by
      constructor
      · rintro (hpath | ⟨elements, others, hothers, hjoined, helements⟩)
        · exact absurd hpath hroot
        · obtain rfl : cs = others := by simpa [hcs] using hothers
          rwa [Text.joined_iff.mp hjoined]
      · exact fun helements => Or.inr ⟨_, cs, hcs, Text.joined_iff.mpr rfl, helements⟩
    rw [hpath, Text.infix_pair_inner_iff hsplit fun _ => hlast]
    constructor
    · rintro helements ⟨later, hlater, hhead⟩
      cases later with
      | nil => exact (helements [] hlater).nonempty rfl
      | cons c later =>
        obtain rfl : c = '/' := by simpa using hhead
        exact Text.not_mem_splitOn hlater List.mem_cons_self
    · intro hnone element helement
      refine ⟨?_, hchars element helement, fun hdigits => nomatch hdigits⟩
      rintro rfl
      exact hnone ⟨[], helement, rfl⟩

/-- Made of characters that may stand in a name, with no digit at the start or behind a dot. -/
structure Tidy (more cs : List Char) : Prop where
  chars : ∀ c ∈ cs, c = '.' ∨ ElementChar more c
  digits : ∀ d, IsDigit d → ¬ [d] <+: cs ∧ ¬ ['.', d] <:+: cs

theorem ne_dot_of_isDigit (h : IsDigit c) : c ≠ '.' := by
  rintro rfl
  exact absurd h.1 (by decide)

/-- What passes is a dotted name if it is tidy. -/
theorem dotted_iff_tidy (h : Parted cs) : Dotted more cs ↔ Tidy more cs := by
  obtain ⟨part, second, rest, hs, hpart, hlater⟩ := h.split
  have hcs : cs ≠ [] := by
    rintro rfl
    simp at hs
  have hhead : cs.head? = part.head? := by
    have := Text.head_splitOn hs
    rwa [List.head?_append_of_ne_nil cs hcs, List.head?_append_of_ne_nil part hpart] at this
  have hdigits : (∀ d, IsDigit d → ¬ [d] <+: cs ∧ ¬ ['.', d] <:+: cs) ↔
      ∀ element ∈ part :: second :: rest, ∀ d, element.head? = some d → ¬ IsDigit d := by
    have hinner : ∀ d, IsDigit d → (['.', d] <:+: cs ↔
        ∃ later ∈ second :: rest, later.head? = some d) := by
      intro d hd
      rw [Text.infix_pair_inner_iff hs fun hdot => absurd hdot (ne_dot_of_isDigit hd)]
      refine exists_congr fun later => and_congr_right fun hmem => ?_
      rw [List.head?_append_of_ne_nil later (hlater later hmem)]
    rw [List.forall_mem_cons]
    constructor
    · intro hall
      refine ⟨fun d hd hdigit => (hall d hdigit).1 ?_, fun later hmem d hd hdigit =>
        (hall d hdigit).2 ((hinner d hdigit).mpr ⟨later, hmem, hd⟩)⟩
      rwa [Text.singleton_prefix_iff, hhead]
    · rintro ⟨hfirst, hothers⟩ d hdigit
      refine ⟨fun hd => ?_, fun hd => ?_⟩
      · rw [Text.singleton_prefix_iff, hhead] at hd
        exact hfirst d hd hdigit
      · obtain ⟨later, hmem, hd⟩ := (hinner d hdigit).mp hd
        exact hothers later hmem d hd hdigit
  rw [DBus.dotted_iff, and_iff_right h.two]
  constructor
  · intro helements
    refine ⟨Text.forall_mem_splitOn.mp fun element hm => (helements element hm).chars, ?_⟩
    exact hdigits.mpr fun element hm => (helements element (hs ▸ hm)).start rfl
  · intro htidy element hm
    refine ⟨h.nonempty element hm, Text.forall_mem_splitOn.mpr htidy.chars element hm, fun _ => ?_⟩
    exact hdigits.mp htidy.digits element (hs ▸ hm)

/-- What passes is the name of a connection if a colon starts it and characters that may stand in
names follow. -/
theorem uniqueName_iff_colon (h : Parted name.toList) :
    UniqueName name ↔ name.utf8ByteSize ≤ 255 ∧
      ∃ cs, name.toList = ':' :: cs ∧ ∀ c ∈ cs, c = '.' ∨ ElementChar ['-'] c := by
  obtain ⟨part, second, rest, hs, hpart, hlater⟩ := h.split
  rw [DBus.uniqueName_iff hs (List.cons_ne_nil second rest)]
  refine and_congr_right fun _ => ?_
  -- The parts behind the first are the same whether or not the colon is there.
  have hchars : ∀ {cs first : List Char}, cs.splitOn '.' = first :: second :: rest →
      ((∀ c ∈ cs, c = '.' ∨ ElementChar ['-'] c) ↔ (∀ c ∈ first, ElementChar ['-'] c) ∧
        ∀ element ∈ second :: rest, Element true ['-'] element) := by
    intro cs first hsplit
    rw [← Text.forall_mem_splitOn, hsplit, List.forall_mem_cons]
    refine and_congr_right fun _ => forall₂_congr fun element hm => ?_
    exact ⟨fun hfit => ⟨hlater element hm, hfit, fun hd => nomatch hd⟩, fun hfit => hfit.chars⟩
  constructor
  · rintro ⟨first, rfl, hfit⟩
    obtain ⟨behind, hname, ht⟩ := Text.splitOn_eq_cons hs
    exact ⟨behind, hname, (hchars ht).mpr hfit⟩
  · rintro ⟨cs, hname, hfit⟩
    obtain ⟨first, others, ht⟩ := Text.exists_splitOn '.' cs
    rw [hname, Text.splitOn_cons_ne (by decide) ht] at hs
    obtain ⟨rfl, rfl⟩ := List.cons.inj hs
    exact ⟨first, rfl, (hchars ht).mp hfit⟩

end

namespace Settings

variable {s : Settings} {text : String}

theorem validate_ok_iff : s.validate = .ok () ↔
    (PathPasses s.portal.objectPath ∧ Parted s.portal.busName.toList) ∧
    (Parted s.kit.service.toList ∧ PathPasses s.kit.objectPath ∧
      Parted s.kit.interface.toList) ∧ s.sandbox.procRoot ≠ "" := by
  have both : ∀ first second : Check,
      (first >>= fun _ => second) = .ok () ↔ first = .ok () ∧ second = .ok () := by
    rintro (e | ⟨⟩) second <;> simp [bind, Except.bind]
  have hsandbox : s.sandbox.validate = .ok () ↔ s.sandbox.procRoot ≠ "" := by
    simp [SandboxSettings.validate]
  rw [validate, both, both, hsandbox, PortalSettings.validate, both, KitSettings.validate, both,
    both, checkPath_ok_iff, checkPath_ok_iff, checkName_ok_iff, checkName_ok_iff, checkName_ok_iff]

theorem parse_valid (loaded : Settings.parse text = .ok s) : s.validate = .ok () := by
  unfold parse at loaded
  split at loaded
  · cases loaded
  · exact (ofDocument_ok_iff.mp loaded).2

/-- What the check finds out about names and paths, what it leaves open, and what comes of that
later. -/
structure Judged (s : Settings) : Prop where
  paths : PathPasses s.portal.objectPath ∧ PathPasses s.kit.objectPath
  names : Parted s.portal.busName.toList ∧ Parted s.kit.service.toList ∧
    Parted s.kit.interface.toList
  portalPath : ObjectPath s.portal.objectPath ↔ ¬ ['/', '/'] <:+: s.portal.objectPath.toList
  kitPath : ObjectPath s.kit.objectPath ↔ ¬ ['/', '/'] <:+: s.kit.objectPath.toList
  portalName : WellKnownName s.portal.busName ↔
    s.portal.busName.utf8ByteSize ≤ 255 ∧ Tidy ['-'] s.portal.busName.toList
  kitService : BusName s.kit.service ↔ s.kit.service.utf8ByteSize ≤ 255 ∧
    (Tidy ['-'] s.kit.service.toList ∨
      ∃ cs, s.kit.service.toList = ':' :: cs ∧ ∀ c ∈ cs, c = '.' ∨ ElementChar ['-'] c)
  kitInterface : InterfaceName s.kit.interface ↔
    s.kit.interface.utf8ByteSize ≤ 255 ∧ Tidy [] s.kit.interface.toList
  client : (∃ client, KitClient.ofSettings s.kit = .ok client) ↔
    BusName s.kit.service ∧ ObjectPath s.kit.objectPath ∧ InterfaceName s.kit.interface
  /-- The portal that is there can be exported unless its path is none. -/
  exporting : ∀ {κ : Type} (e : Exports κ) (link : Link κ) (tree : FileTree),
    (∃ fault, e.addIfReady link s tree = .error fault) ↔
      link.handle?.isSome ∧ ¬ ObjectPath s.portal.objectPath
  /-- The bus is asked for the name unless that is none. -/
  owning : ∀ (env : Environment) (a : Arguments) (bus : DBus.Peer),
    env.connect s.portal.busAddress env.sessionBus = .ok bus → ObjectPath s.portal.objectPath →
      s.portal.requestName = true → a.noName = false →
        (Made.of bus (DBus.Bus.requestName s.portal.busName) ∈ (env.serve a s).calls ↔
          WellKnownName s.portal.busName)

theorem client_iff (hservice : Parted s.kit.service.toList)
    (hinterface : Parted s.kit.interface.toList) :
    (∃ client, KitClient.ofSettings s.kit = .ok client) ↔
      BusName s.kit.service ∧ ObjectPath s.kit.objectPath ∧ InterfaceName s.kit.interface := by
  rw [← hservice.isBusName_iff, ← DBus.isObjectPath_iff, ← hinterface.isInterfaceName_iff]
  unfold KitClient.ofSettings
  cases DBus.isBusName s.kit.service <;> cases DBus.isObjectPath s.kit.objectPath <;>
    cases DBus.isInterfaceName s.kit.interface <;> simp

theorem exporting_iff {κ : Type} (e : Exports κ) (link : Link κ) (tree : FileTree) :
    (∃ fault, e.addIfReady link s tree = .error fault) ↔
      link.handle?.isSome ∧ ¬ ObjectPath s.portal.objectPath := by
  rw [← DBus.isObjectPath_iff]
  unfold Exports.addIfReady Exports.add
  cases link.handle? with
  | none => simp
  | some kit =>
    cases hpath : DBus.isObjectPath s.portal.objectPath with
    | false => simp [Except.map]
    | true => split_ifs <;> simp_all [Except.map]

/-- Before the name of the portal is asked for, its buses are only greeted. -/
theorem connectKit_calls {env : Environment} {made : Made}
    (h : made ∈ (env.connectKit s.kit).1) : made.call = DBus.Bus.hello := by
  unfold Environment.connectKit at h
  split at h
  · cases h
  · obtain rfl := List.mem_singleton.mp h
    rfl

theorem owning_iff (hname : Parted s.portal.busName.toList) (env : Environment) (a : Arguments)
    (bus : DBus.Peer) (hbus : env.connect s.portal.busAddress env.sessionBus = .ok bus)
    (hpath : ObjectPath s.portal.objectPath) (hrequest : s.portal.requestName = true)
    (hasked : a.noName = false) :
    Made.of bus (DBus.Bus.requestName s.portal.busName) ∈ (env.serve a s).calls ↔
      WellKnownName s.portal.busName := by
  let request := Made.of bus (DBus.Bus.requestName s.portal.busName)
  let greetings := Made.of bus DBus.Bus.hello :: (env.connectKit s.kit).1
  have hgreet : request ∉ greetings := by
    intro h
    have hhello : request.call = DBus.Bus.hello := by
      rcases List.mem_cons.mp h with h | h
      · rw [h]
        rfl
      · exact connectKit_calls h
    have hmember : "RequestName" = "Hello" := congrArg DBus.Call.member hhello
    exact absurd hmember (by decide)
  obtain ⟨exported, hexported⟩ : ∃ exported, Exports.empty.addIfReady
      (CommandLine.linkOf (env.connectKit s.kit).2) s env.network.tree = .ok exported := by
    cases h : Exports.empty.addIfReady (CommandLine.linkOf (env.connectKit s.kit).2) s
        env.network.tree with
    | error fault => exact absurd hpath ((exporting_iff _ _ _).mp ⟨fault, h⟩).2
    | ok exported => exact ⟨exported, rfl⟩
  rw [← hname.isWellKnownName_iff]
  simp only [Environment.serve, hbus, hexported, hrequest, hasked]
  cases hknown : DBus.isWellKnownName s.portal.busName with
  | false => simpa [CommandLine.Start.fail, request, greetings] using hgreet
  | true =>
    by_cases hgranted :
        DBus.Bus.grantsName (bus.answer (DBus.Bus.requestName s.portal.busName)) = true <;>
      simp [hgranted, CommandLine.Start.fail]

/-- The names and paths of settings that load, and so all that they are needed for, can be used but
for what the check does not look at: slashes in a row, and the characters, the digits and the
length of names. -/
theorem loaded_names_usable_iff (loaded : Settings.parse text = .ok s) : Judged s := by
  obtain ⟨⟨hportalPath, hportalName⟩, ⟨hservice, hkitPath, hinterface⟩, -⟩ :=
    validate_ok_iff.mp (parse_valid loaded)
  constructor
  case paths => exact ⟨hportalPath, hkitPath⟩
  case names => exact ⟨hportalName, hservice, hinterface⟩
  case portalPath => exact hportalPath.objectPath_iff
  case kitPath => exact hkitPath.objectPath_iff
  case portalName => exact and_congr_right fun _ => dotted_iff_tidy hportalName
  case kitService =>
    rw [BusName, uniqueName_iff_colon hservice, WellKnownName, dotted_iff_tidy hservice,
      ← and_or_left, or_comm]
  case kitInterface => exact and_congr_right fun _ => dotted_iff_tidy hinterface
  case client => exact client_iff hservice hinterface
  case exporting => exact fun e link tree => exporting_iff e link tree
  case owning => exact owning_iff hportalName

def slashed : Settings :=
  { Settings.standard with portal := { PortalSettings.standard with objectPath := "/a//b" } }

def slashedText : String := "[portal]\nobject_path = \"/a//b\"\n"

def slashedDocument : Toml.Table := [("portal", .table [("object_path", .string "/a//b")])]

theorem slashedText_parse : Settings.parse slashedText = .ok slashed := by
  have hread : Toml.parse? slashedText = some slashedDocument := by decide +kernel
  have htable : ofTable slashedDocument = .ok slashed := rfl
  have hvalid : slashed.validate = .ok () := rfl
  simp [parse, hread, ofDocument, htable, hvalid, Except.map]

theorem loaded_names_usable_iff_sample :
    Settings.parse slashedText = .ok slashed ∧ Judged slashed :=
  ⟨slashedText_parse, loaded_names_usable_iff slashedText_parse⟩

/-- Settings load whose path is none, and the portal that is there cannot be exported. -/
theorem slashes_in_a_row_load :
    Settings.parse slashedText = .ok slashed ∧ ¬ ObjectPath slashed.portal.objectPath ∧
    Exports.empty.addIfReady ⟨some (.ok ()), [], 0⟩ slashed ⟨[]⟩ = .error .value := by
  refine ⟨slashedText_parse, ?_, rfl⟩
  rw [← DBus.isObjectPath_iff]
  decide

end Settings

end PriorityPortal
