import PriorityPortal.Proofs.CallerOrigin
import PriorityPortal.Proofs.Decimal
import PriorityPortal.Proofs.NameGrammar
/-!
# Errors that can be sent

An error can be sent if there is no U+0000 in its text. There is none in what the portal says for
itself, since a path with one in it cannot be looked up, and what RealtimeKit and the bus say comes
in strings that have none.
-/
namespace PriorityPortal

def ZeroFree (text : String) : Prop := '\x00' ∉ text.toList

instance (text : String) : Decidable (ZeroFree text) :=
  inferInstanceAs (Decidable ('\x00' ∉ text.toList))

section

variable {s t : String}

theorem ZeroFree.append (hs : ZeroFree s) (ht : ZeroFree t) : ZeroFree (s ++ t) := by
  simp only [ZeroFree, String.toList_append, List.mem_append]
  exact fun h => h.elim hs ht

theorem zeroFree_toString (n : Nat) : ZeroFree (toString n) := by
  intro h
  have hs : (toString n).toList = Text.decimal n := Nat.toList_repr
  rw [hs] at h
  exact absurd (Text.isDigit_of_mem_decimal h) (by decide)

/-- A number told of in words. -/
theorem zeroFree_told (n : Nat) (hs : ZeroFree s) (ht : ZeroFree t) :
    ZeroFree (s ++ toString n ++ t) :=
  (hs.append (zeroFree_toString n)).append ht

end

def IoError.Known (e : IoError) : Prop := ∀ text, e ≠ .other text

theorem IoError.Known.zeroFree {e : IoError} (h : e.Known) : ZeroFree e.message := by
  cases e with
  | other text => exact absurd rfl (h text)
  | os e =>
    have hdescription : ZeroFree e.description := by cases e <;> decide +kernel
    exact zeroFree_told e.code (hdescription.append (by decide)) (by decide)
  | _ => decide +kernel

namespace FileTree

variable {tree : FileTree} {names : List String} {last : LastLink} {e : IoError}

theorem find_error_known (h : tree.find names last = .error e) : e.Known := by
  rintro text rfl
  unfold find at h
  split at h
  · cases h
  · split at h
    · cases h
    · split at h <;> cases h

theorem readText_error_known (h : tree.readText names = .error e) : e.Known := by
  unfold readText at h
  split at h
  next =>
    split at h
    · cases h
    · cases h
      exact fun _ hc => nomatch hc
  next =>
    cases h
    exact fun _ hc => nomatch hc
  next =>
    cases h
    exact fun _ hc => nomatch hc
  next hf =>
    cases h
    exact find_error_known hf

theorem readLink_error_known (h : tree.readLink names = .error e) : e.Known := by
  unfold readLink at h
  split at h
  next => cases h
  next =>
    cases h
    exact fun _ hc => nomatch hc
  next hf =>
    cases h
    exact find_error_known hf

theorem list_error_known (h : tree.list names = .error e) : e.Known := by
  unfold list at h
  split at h
  next => cases h
  next =>
    cases h
    exact fun _ hc => nomatch hc
  next hf =>
    cases h
    exact find_error_known hf

end FileTree

namespace ProcessTable

variable {table : ProcessTable}

theorem hostPidFor_error_zeroFree {origin : Origin} {pid : UInt64} {e : MappingError}
    (h : table.hostPidFor origin pid = .error e) : ZeroFree e.message := by
  have hio : ∀ {e : IoError}, e.Known → ZeroFree (MappingError.io e).message := fun hk =>
    ZeroFree.append (by decide) hk.zeroFree
  cases origin with
  | host =>
    cases h
    decide
  | flatpak application instancePid =>
    simp only [hostPidFor, hostPid] at h
    split at h
    next =>
      cases h
      exact zeroFree_told pid.toNat (by decide) (by decide)
    next =>
      split at h
      next e hlink =>
        cases h
        split
        · exact zeroFree_told instancePid.toNat (by decide) (by decide)
        · exact hio (FileTree.readLink_error_known hlink)
      next =>
        split at h
        next e hlink =>
          cases h
          exact hio (FileTree.readLink_error_known hlink)
        next =>
          split at h
          next => cases h
          next =>
            split at h
            next e hlist =>
              cases h
              exact hio (FileTree.list_error_known hlist)
            next =>
              split at h
              · cases h
              · cases h
                exact zeroFree_told pid.toNat (by decide) (by decide)

theorem zeroFree_join {directory name : String} (hd : ZeroFree directory) (hn : ZeroFree name) :
    ZeroFree (Path.join directory name) := by
  unfold Path.join
  split
  · exact hd.append hn
  · exact (hd.append (by decide)).append hn

theorem zeroFree_of_names {path : String} (h : ∀ name ∈ Path.names path, ZeroFree name) :
    ZeroFree path := by
  have hsplit : ∀ part ∈ path.toList.splitOn '/', ∀ c ∈ part, c ≠ '\x00' := by
    rintro part hp c hc rfl
    refine h (String.ofList part) ?_ (by simpa using hc)
    rw [Path.names, Text.splitBy_eq_splitOn]
    exact List.mem_map_of_mem hp
  intro hz
  rcases Text.forall_mem_splitOn.mp hsplit _ hz with hslash | hne
  · exact absurd hslash (by decide)
  · exact hne rfl

/-- Below the directory of a process that is there all paths can be written. -/
theorem zeroFree_keyfilePath {pid : UInt32}
    (there : table.tree.resolves (table.within [toString pid]) = true) :
    ZeroFree (table.keyfilePath pid) := by
  -- The directory is found by its names, which a name with U+0000 in it would have prevented.
  obtain ⟨found, hfound⟩ := FileTree.resolves_iff.mp there
  have hspeakable : Path.Speakable (table.within [toString pid]) :=
    FileTree.speakable_of_find hfound (fun hc => nomatch hc) (fun hc => nomatch hc)
  have hroot : ZeroFree table.root := by
    refine zeroFree_of_names fun name hmem hz => ?_
    have hany : (table.within [toString pid]).any
        (fun name => name.toList.contains '\x00') = true :=
      List.any_eq_true.mpr ⟨name, List.mem_append_left _ hmem, by simpa using hz⟩
    rw [hspeakable.zeros] at hany
    cases hany
  exact zeroFree_join (zeroFree_join (zeroFree_join hroot (zeroFree_toString _)) (by decide))
    (by decide)

theorem Refused.zeroFree {pid : UInt32} {e : IdentityError} (h : table.Refused pid e) :
    ZeroFree e.message := by
  cases h with
  | gone missing =>
    exact zeroFree_told pid.toNat (by decide) (by decide)
  | unreadable there failed other =>
    have hreason := (FileTree.readText_error_known failed).zeroFree
    exact ((ZeroFree.append (by decide) (zeroFree_keyfilePath there)).append (by decide)).append
      hreason
  | nameless read unnamed =>
    exact ZeroFree.append (by decide) (zeroFree_keyfilePath (resolves_of_keyfile read))

end ProcessTable

def PortalError.Clean (e : PortalError) : Prop := ∀ text ∈ e.replyText?, ZeroFree text

theorem PortalError.Clean.message {e : PortalError} (h : e.Clean) (sender : Option String) :
    ∃ name args, Reply.message? sender (.error e) = some (.failure name args) := by
  refine ⟨e.name, e.replyText?.toList.map .string, ?_⟩
  have hreply : e.reply sender = .ok ⟨e.name, sender, e.replyText?⟩ := by
    unfold PortalError.reply
    cases ht : e.replyText? with
    | none => rfl
    | some text =>
      have hzero : ¬ text.toList.contains '\x00' := by simpa [ZeroFree] using h text ht
      simp only [if_neg hzero]
  simp only [Reply.message?, hreply]

def Kit.Clean (kit : Kit) : Prop :=
  ∀ call e, kit.answer call = some (.error (.downstream e)) →
    (PortalError.realtime (.downstream e)).Clean

/-- What RealtimeKit and the bus say can be said again. -/
structure Surroundings.Clean {κ : Type} (around : Surroundings κ) : Prop where
  kit : ∀ handle, (around.kit handle).Clean
  bus : ∀ sender e, around.pidOf sender = .error e → e.Clean

theorem sampleSurroundings_clean {reply : Option (Except DownstreamError Unit)}
    (h : ∀ e, reply ≠ some (.error e)) : (sampleSurroundings reply).Clean where
  kit _ := by
    rintro (⟨process, task, priority⟩ | name) e ha
    · obtain ⟨found, hfound, hr⟩ := Option.map_eq_some_iff.mp ha
      cases found with
      | ok => cases hr
      | error d => exact absurd hfound (h d)
    · cases ha
  bus _ _ ha := nomatch ha

section

variable {kit : Kit} {services : Services} {routing : Routing} {e : RealtimeError}

theorem clean_invalidResponse (signature : String) :
    (PortalError.realtime (.invalidResponse signature)).Clean := by
  rintro text ⟨⟩
  change ZeroFree "Invalid response type received"
  decide

theorem Kit.Clean.answer {call : KitCall} (h : kit.Clean)
    (ha : kit.answer call = some (.error e)) : (PortalError.realtime e).Clean := by
  cases call with
  | thread process task priority =>
    obtain ⟨reply, -, hr⟩ := Option.map_eq_some_iff.mp ha
    cases reply with
    | ok => cases hr
    | error d =>
      cases hr
      exact h _ d ha
  | property name =>
    obtain ⟨reply, -, hr⟩ := Option.map_eq_some_iff.mp ha
    cases reply with
    | error d =>
      cases hr
      exact h _ d ha
    | ok value =>
      simp only [Property.result] at hr
      split at hr
      · cases hr
      · cases hr
        exact clean_invalidResponse _

theorem Kit.Clean.settle {call : KitCall} (h : kit.Clean)
    (he : kit.settle call = .ended (.error e)) : (PortalError.realtime e).Clean := by
  unfold Kit.settle at he
  split at he
  · cases he
  next ha =>
    cases he
    exact h.answer ha

structure Services.Clean (services : Services) : Prop where
  kit : services.toKit.Clean
  mapper : ∀ origin pid e, services.mapPid origin pid = some (.error e) → ZeroFree e.message

theorem Stage.advance_clean {stage : Stage} (h : services.Clean)
    (he : (stage.advance routing services).1 = .ended (.error e)) :
    (PortalError.realtime e).Clean := by
  cases stage with
  | calling call => exact h.kit.settle he
  | mapping origin process task priority =>
    unfold Stage.advance at he
    cases hm : services.mapPid origin process with
    | none => simp [hm] at he
    | some mapped =>
      cases mapped with
      | ok found =>
        simp only [hm] at he
        exact h.kit.settle he
      | error failure =>
        obtain rfl : .pidMapping failure = e := by simpa [hm] using he
        rintro text ⟨⟩
        exact ZeroFree.append (by decide) (h.mapper _ _ _ hm)

theorem Request.begin_clean {request : Request} (h : services.Clean)
    (he : (request.begin routing services).1 = .ended (.error e)) :
    (PortalError.realtime e).Clean := by
  cases request with
  | property sender name => exact h.kit.settle he
  | thread caller process task priority =>
    obtain ⟨sender, origin⟩ := caller
    cases origin with
    | host => exact h.kit.settle he
    | flatpak application instancePid =>
      let stage : Stage := .mapping (.flatpak application instancePid) process task priority
      have hstage : (stage.advance routing services).1 = .ended (.error e) := he
      exact Stage.advance_clean h hstage

end

namespace Portal

variable {κ : Type} {p : Portal κ} {around : Surroundings κ}

theorem services_clean (h : around.Clean) : (p.services around).Clean where
  kit := h.kit p.kit
  mapper _ _ _ hm := ProcessTable.hostPidFor_error_zeroFree (Option.some.inj hm)

theorem identify_clean {sender : String} {e : PortalError} (h : around.Clean)
    (hid : p.identify around sender = .error e) : e.Clean := by
  unfold identify at hid
  cases hpid : around.pidOf sender with
  | error failure =>
    simp only [hpid] at hid
    cases hid
    exact h.bus sender _ hpid
  | ok peer =>
    cases horigin : p.table.origin peer with
    | ok origin => simp [hpid, horigin] at hid
    | error failure =>
      simp only [hpid, horigin] at hid
      cases hid
      rintro text ⟨⟩
      exact ZeroFree.append (by decide) (ProcessTable.refused_of_origin horigin).zeroFree

theorem noSender_clean : (PortalError.caller .noSender).Clean := by
  rintro text ⟨⟩
  change ZeroFree "could not identify caller: message has no sender"
  decide

end Portal

end PriorityPortal
