import PriorityPortal.Proofs.NameChecks
/-!
# What the check of settings lets pass

The rules of the D-Bus specification for names and paths are stricter than the check of settings, so
that the check refuses nothing that they allow. Both look at the same parts: the stretches between
dots or slashes, none of which is empty by either.
-/
namespace PriorityPortal

open DBus (BusName Dotted Element ElementChar InterfaceName ObjectPath Parted UniqueName
  WellKnownName)

section

variable {path name : String} {more cs : List Char} {elements : List (List Char)}

/-- An element neither is empty nor has a slash in it, so that a slash stands behind no other one,
nor could one be put behind the path. -/
theorem slashes_apart (hsplit : path.toList.splitOn '/' = [] :: elements)
    (helements : ∀ element ∈ elements, Element true [] element) :
    ¬ ['/', '/'] <:+: path.toList ++ ['/'] := by
  rw [Text.infix_pair_iff hsplit]
  rintro ⟨later, hlater, hhead⟩
  cases later with
  | nil => exact (helements [] hlater).nonempty rfl
  | cons c later =>
    obtain rfl : c = '/' := by simpa using hhead
    have hmem : '/' :: later ∈ path.toList.splitOn '/' := by
      rw [hsplit]
      exact List.mem_cons_of_mem _ hlater
    exact Text.not_mem_splitOn hmem List.mem_cons_self

theorem ObjectPath.passes (h : ObjectPath path) : PathPasses path := by
  rcases h with rfl | ⟨elements, cs, hpath, hjoined, helements⟩
  · exact ⟨rfl, fun _ => rfl, by simp⟩
  · have hcs : cs.splitOn '/' = elements := Text.joined_iff.mp hjoined
    have hsplit : path.toList.splitOn '/' = [] :: elements := by
      rw [hpath, Text.splitOn_cons_self, hcs]
    constructor
    case start => rw [hpath, List.head?_cons]
    case ending =>
      intro hlast
      obtain ⟨before, hbefore⟩ := List.getLast?_eq_some_iff.mp hlast
      refine absurd ?_ (slashes_apart hsplit helements)
      exact ⟨before, [], by simp [hbefore]⟩
    case chars =>
      rw [← Text.forall_mem_splitOn, hsplit, List.forall_mem_cons]
      exact ⟨List.forall_mem_nil _, fun element hm => (helements element hm).chars⟩

theorem Dotted.parted (h : Dotted more cs) : Parted cs := by
  obtain ⟨htwo, helements⟩ := DBus.dotted_iff.mp h
  exact ⟨htwo, fun part hpart => (helements part hpart).nonempty⟩

/-- The first part holds the colon at least. -/
theorem UniqueName.parted (h : UniqueName name) : Parted name.toList := by
  obtain ⟨-, first, rest, hjoined, hrest, -, helements⟩ := h
  have hsplit := Text.joined_iff.mp hjoined
  constructor
  case two =>
    have hlength := List.length_pos_iff.mpr hrest
    rw [hsplit, List.length_cons]
    omega
  case nonempty =>
    rw [hsplit, List.forall_mem_cons]
    exact ⟨List.cons_ne_nil _ _, fun part hpart => (helements part hpart).nonempty⟩

theorem BusName.parted (h : BusName name) : Parted name.toList := by
  rcases h with h | ⟨-, h⟩
  · exact UniqueName.parted h
  · exact Dotted.parted h

end

namespace Settings

structure Specified (s : Settings) : Prop where
  portalPath : ObjectPath s.portal.objectPath
  portalName : WellKnownName s.portal.busName
  kitService : BusName s.kit.service
  kitPath : ObjectPath s.kit.objectPath
  kitInterface : InterfaceName s.kit.interface
  procRoot : s.sandbox.procRoot ≠ ""

/-- Settings that keep to the specification pass the check. -/
theorem specified_settings_pass {s : Settings} (h : s.Specified) : s.validate = .ok () := by
  obtain ⟨-, hportalName⟩ := h.portalName
  obtain ⟨-, hkitInterface⟩ := h.kitInterface
  rw [validate_ok_iff]
  refine ⟨⟨?_, ?_⟩, ⟨?_, ?_, ?_⟩, h.procRoot⟩
  · exact ObjectPath.passes h.portalPath
  · exact Dotted.parted hportalName
  · exact BusName.parted h.kitService
  · exact ObjectPath.passes h.kitPath
  · exact Dotted.parted hkitInterface

def byConnection : Settings :=
  { Settings.standard with
    kit := { KitSettings.standard with service := ":1.5", objectPath := "/" } }

theorem byConnection_specified : byConnection.Specified := by
  have hname : checkName .portalName byConnection.portal.busName = .ok () := by decide
  have hservice : checkName .kitService byConnection.kit.service = .ok () := by decide
  have hinterface : checkName .kitInterface byConnection.kit.interface = .ok () := by decide
  constructor
  case portalPath => exact (DBus.isObjectPath_iff _).mp (by decide)
  case portalName => exact (checkName_ok_iff.mp hname).isWellKnownName_iff.mp (by decide)
  case kitService => exact (checkName_ok_iff.mp hservice).isBusName_iff.mp (by decide)
  case kitPath => exact Or.inl rfl
  case kitInterface => exact (checkName_ok_iff.mp hinterface).isInterfaceName_iff.mp (by decide)
  case procRoot => decide

theorem specified_settings_pass_sample :
    byConnection.Specified ∧ byConnection.validate = .ok () :=
  ⟨byConnection_specified, specified_settings_pass byConnection_specified⟩

end Settings

end PriorityPortal
