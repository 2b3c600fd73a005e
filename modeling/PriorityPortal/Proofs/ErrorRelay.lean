import PriorityPortal.Kit.Client
import PriorityPortal.Proofs.TrustBoundary
/-!
# Errors of RealtimeKit on their way to the caller

An error that RealtimeKit answers a call with ends the request that made the call, and the sender
of the request is answered with an error of the same name and message. Only a property's reader
is told a little more where a standard error came without a message. Everything else that goes
wrong goes by the portal's own name.
-/
namespace PriorityPortal

/-- An error that can be sent: its name is one of an error, and no U+0000 is in its message. -/
structure DownstreamError.Sendable (e : DownstreamError) : Prop where
  name : DBus.isErrorName e.name = true
  message : ∀ text ∈ e.message, '\x00' ∉ text.toList

inductive DBus.Carries : List DBus.Value → Option String → Prop where
  | nothing : Carries [] none
  | text (text : String) (rest : List DBus.Value) : Carries (.string text :: rest) (some text)

theorem DBus.Carries.errorMessage {args : List DBus.Value} {message : Option String}
    (h : DBus.Carries args message) : DBus.errorMessage? args = message := by
  cases h with
  | nothing => rfl
  | text text rest => rfl

theorem DBus.carries_text (message : Option String) :
    DBus.Carries (message.toList.map .string) message := by
  cases message with
  | none => exact .nothing
  | some text => exact .text text []

def ErrorReply.args (reply : ErrorReply) : List DBus.Value := reply.text.toList.map .string

structure ErrorReply.Tells (reply : ErrorReply) (e : DownstreamError) (sender : Option String) :
    Prop where
  name : reply.name = e.name
  destination : reply.destination = sender
  args : reply.args = e.message.toList.map .string
  /-- Whoever reads the reply as the answer to a call has the error again. -/
  readBack : (KitClient.failureOf reply.name reply.args).downstream = e

section

variable {e : DownstreamError}

theorem DownstreamError.Sendable.reply (h : e.Sendable) (sender : Option String) :
    (PortalError.realtime (.downstream e)).reply sender = .ok ⟨e.name, sender, e.message⟩ := by
  have hname : (PortalError.realtime (.downstream e)).name = e.name := if_pos h.name
  cases hm : e.message with
  | none => simp only [PortalError.reply, PortalError.replyText?, hm, hname]
  | some text =>
    have hzero : ¬ text.toList.contains '\x00' := by simpa using h.message text hm
    simp only [PortalError.reply, PortalError.replyText?, hm, if_neg hzero, hname]

theorem KitClient.downstream_failureOf {name : String} {args : List DBus.Value}
    {message : Option String} (h : DBus.Carries args message) :
    (failureOf name args).downstream = ⟨name, message⟩ := by
  simp only [failureOf, CallFailure.downstream, h.errorMessage]

theorem DownstreamError.tells (e : DownstreamError) (sender : Option String) :
    (⟨e.name, sender, e.message⟩ : ErrorReply).Tells e sender :=
  ⟨rfl, rfl, rfl, KitClient.downstream_failureOf (DBus.carries_text e.message)⟩

theorem DownstreamError.Sendable.answer (h : e.Sendable) (sender : Option String) :
    Reply.message? sender (.error (.realtime (.downstream e))) =
      some (.failure e.name (e.message.toList.map .string)) := by
  simp only [Reply.message?, h.reply sender]

end

namespace PortalError

theorem name_of_own {e : PortalError}
    (h : ∀ d, e = .realtime (.downstream d) → DBus.isErrorName d.name = false) :
    e.name = ownName := by
  cases e with
  | realtime r =>
    cases r with
    | downstream d =>
      have hn : ¬ DBus.isErrorName d.name = true := by simp [h d rfl]
      exact if_neg hn
    | _ => rfl
  | _ => rfl

theorem name_valid (e : PortalError) : DBus.isErrorName e.name = true := by
  by_cases h : ∃ d, e = .realtime (.downstream d) ∧ DBus.isErrorName d.name = true
  · obtain ⟨d, rfl, hd⟩ := h
    have hname : (PortalError.realtime (.downstream d)).name = d.name := if_pos hd
    rw [hname]
    exact hd
  · have hown : e.name = ownName := by
      refine name_of_own fun d hd => ?_
      exact Bool.eq_false_iff.mpr fun hv => h ⟨d, hd, hv⟩
    rw [hown]
    decide

theorem reply_ok {e : PortalError} {sender : Option String} {reply : ErrorReply}
    (h : e.reply sender = .ok reply) : reply = ⟨e.name, sender, e.replyText?⟩ := by
  unfold PortalError.reply at h
  cases ht : e.replyText? with
  | none => simpa [ht, eq_comm] using h
  | some text =>
    simp only [ht] at h
    split at h
    · cases h
    · exact (Except.ok.inj h).symm

end PortalError

section

variable {routing : Routing} {services : Services} {call : KitCall}

theorem advance_called {stage : Stage} (h : call ∈ (stage.advance routing services).2.calls) :
    (stage.advance routing services).1 = services.toKit.settle call := by
  cases stage with
  | calling made => cases h
  | mapping origin process task priority =>
    cases hm : services.mapPid origin process with
    | none =>
      simp only [Stage.advance, hm] at h
      cases h
    | some answer =>
      cases answer with
      | error e =>
        simp only [Stage.advance, hm] at h
        cases h
      | ok found =>
        simp only [Stage.advance, hm, List.mem_singleton] at h ⊢
        rw [h]

theorem begin_called {request : Request} (h : call ∈ (request.begin routing services).2.calls) :
    (request.begin routing services).1 = services.toKit.settle call := by
  cases request with
  | property sender name =>
    obtain rfl := List.mem_singleton.mp h
    rfl
  | thread caller process task priority =>
    obtain ⟨sender, origin⟩ := caller
    cases origin with
    | host =>
      obtain rfl := List.mem_singleton.mp h
      rfl
    | flatpak application instancePid =>
      have hstage : call ∈ ((Stage.mapping (.flatpak application instancePid) process task
          priority).advance routing services).2.calls := h
      exact advance_called hstage

end

/-- The calls whose answers an event looks for: one that is made at this event, and one that the
request looked at again has been waiting for. -/
inductive Relay.LooksFor (r : Relay) (services : Services) : RelayEvent → KitCall → Prop where
  | made {event : RelayEvent} {call : KitCall} :
      call ∈ (r.next services event).effects.calls → LooksFor r services event call
  | awaited {key : Nat} {pending : Pending} {call : KitCall} :
      r.find? key = some pending → pending.stage = .calling call →
        LooksFor r services (.poll key) call

theorem Relay.LooksFor.seen {r : Relay} {services : Services} {event : RelayEvent}
    {call : KitCall} {result : Result} (h : r.LooksFor services event call)
    (ha : services.toKit.answer call = some result) :
    (r.next services event).seen = .done result := by
  have hsettle : services.toKit.settle call = .ended result := by simp only [Kit.settle, ha]
  cases h with
  | made hmade =>
    -- A call is made only where the event takes a request on; elsewhere there is none to look for.
    cases event with
    | start key request =>
      cases hf : r.find? key with
      | some pending =>
        rw [next_start_in_use hf] at hmade
        cases hmade
      | none =>
        rw [next_start hf] at hmade ⊢
        simp only [begin_called hmade, hsettle, Progress.seen]
    | poll key =>
      cases hf : r.find? key with
      | none =>
        rw [next_poll_unknown hf] at hmade
        cases hmade
      | some pending =>
        rw [next_poll hf] at hmade ⊢
        simp only [advance_called hmade, hsettle, Progress.seen]
    | drop key =>
      cases hf : r.find? key with
      | none =>
        rw [next_drop_unknown hf] at hmade
        cases hmade
      | some pending =>
        rw [next_drop hf] at hmade
        cases hmade
  | awaited hf hstage =>
    rw [next_poll hf]
    simp only [hstage, Stage.advance, hsettle, Progress.seen]

variable {κ : Type}

theorem Portal.answer_called {p : Portal κ} {around : Surroundings κ} {sender : Option String}
    {request : PortalCall} {call : KitCall} {result : Result}
    (h : call ∈ (p.answer around sender request).calls)
    (ha : (around.kit p.kit).answer call = some result) :
    (p.answer around sender request).seen = .done result.ofRelay := by
  have htake : ∀ lookups taken, call ∈ (p.take around lookups taken).calls →
      (p.take around lookups taken).seen = .done result.ofRelay := by
    intro lookups taken hc
    have hseen : (p.relay.next (p.services around) (.start p.taken taken)).seen = .done result :=
      Relay.LooksFor.seen (.made hc) ha
    simp only [Portal.take, hseen]
  cases request with
  | property name => exact htake _ _ h
  | thread process task priority =>
    cases sender with
    | none => cases h
    | some sender =>
      simp only [Portal.answer] at h ⊢
      cases hid : p.identify around sender with
      | error e =>
        rw [hid] at h
        cases h
      | ok caller =>
        rw [hid] at h
        exact htake _ _ h

/-- A message that makes a call is answered with what comes of the call. -/
theorem Exports.answer_called {e : Exports κ} {around : Surroundings κ} {message : DBus.Call}
    {handle : κ} {call : KitCall} {result : Result}
    (h : (handle, call) ∈ (e.answer around message).calls)
    (ha : (around.kit handle).answer call = some result) :
    (e.answer around message).answer = Reply.message? message.sender result.ofRelay := by
  unfold Exports.answer at h ⊢
  cases hroute : DBus.ObjectTree.route e.objects message with
  | error refusal => simp [hroute] at h
  | ok interface =>
    simp only [hroute, answerHere] at h ⊢
    cases hread : PortalCall.ofMessage message.member message.args with
    | error refusal => simp [hread] at h
    | ok request =>
      simp only [hread] at h ⊢
      cases hl : (e.served.lookup message.path).bind
          (fun number => (e.portals[number]?).map fun portal => (number, portal)) with
      | none => simp [hl] at h
      | some found =>
        obtain ⟨number, portal⟩ := found
        simp only [hl, List.mem_map, Prod.mk.injEq] at h ⊢
        obtain ⟨made, hmade, rfl, rfl⟩ := h
        simp only [Portal.answer_called hmade ha]

/-- An error in answer to a call of RealtimeKit gets through: it ends the request that looks for
the answer, and the sender of the message that made the call has it for an answer. -/
structure Relayed (κ : Type) (kit : Kit) (call : KitCall) (e : DownstreamError) : Prop where
  request : ∀ (r : Relay) (services : Services) (event : RelayEvent), services.toKit = kit →
    r.LooksFor services event call → (r.next services event).seen = .done (.error (.downstream e))
  sender : ∀ (exports : Exports κ) (around : Surroundings κ) (message : DBus.Call) (handle : κ),
    around.kit handle = kit → (handle, call) ∈ (exports.answer around message).calls →
      (exports.answer around message).answer =
        some (.failure e.name (e.message.toList.map .string))

theorem relayed_of_answer {kit : Kit} {call : KitCall} {e : DownstreamError} (h : e.Sendable)
    (ha : kit.answer call = some (.error (.downstream e))) : Relayed κ kit call e where
  request := by
    rintro r services event rfl hl
    exact hl.seen ha
  sender := by
    rintro exports around message handle rfl hc
    rw [Exports.answer_called hc ha]
    exact h.answer message.sender

section

variable {client : KitClient} {peer : DBus.Peer} {name : String} {args : List DBus.Value}
  {message : Option String}

theorem KitClient.granted_failure (hc : DBus.Carries args message) :
    granted (.failure name args) = .error ⟨name, message⟩ := by
  simp only [granted, downstream_failureOf hc]

theorem KitClient.answer_thread {process task : UInt64} {priority : Priority}
    (ha : peer.answer (client.send (.thread process task priority)) = .failure name args)
    (hc : DBus.Carries args message) :
    (client.kit peer).answer (.thread process task priority) =
      some (.error (.downstream ⟨name, message⟩)) := by
  simp only [Kit.answer, KitClient.kit, ha, granted_failure hc, Option.map_some]

def DownstreamError.asStandard (e : DownstreamError) : DownstreamError :=
  ⟨e.name, if DBus.isStandardError e.name then some (e.message.getD "") else e.message⟩

theorem DownstreamError.asStandard_eq_iff (e : DownstreamError) :
    e.asStandard = e ↔ ¬ (DBus.isStandardError e.name = true ∧ e.message = none) := by
  obtain ⟨name, message⟩ := e
  cases hs : DBus.isStandardError name <;> cases message <;> simp [asStandard, hs]

theorem DownstreamError.Sendable.asStandard {e : DownstreamError} (h : e.Sendable) :
    e.asStandard.Sendable := by
  refine ⟨h.name, fun text ht => ?_⟩
  cases hm : e.message with
  | some message =>
    have hsame : e.asStandard = e := e.asStandard_eq_iff.mpr fun hs => by simp [hm] at hs
    rw [hsame] at ht
    exact h.message text ht
  | none =>
    simp only [DownstreamError.asStandard, hm, Option.getD_none] at ht
    split at ht
    · obtain rfl := Option.some.inj ht
      decide
    · cases ht

/-- The two forms of a failure tell of the same error, but for a message that is missing. -/
theorem StandardFailure.downstream_ofCall (name : String) (message : Option String) :
    (ofCall (.answered name message)).downstream =
      DownstreamError.asStandard ⟨name, message⟩ := by
  simp only [ofCall]
  cases hf : DBus.standardEnds.find? fun ending => DBus.standardError ending == name with
  | some ending =>
    obtain rfl : DBus.standardError ending = name := by simpa using List.find?_some hf
    have hs : DBus.isStandardError (DBus.standardError ending) = true :=
      List.any_eq_true.mpr ⟨ending, List.mem_of_find?_eq_some hf, beq_self_eq_true _⟩
    simp only [StandardFailure.downstream, DownstreamError.asStandard, if_pos hs]
  | none =>
    have hs : ¬ DBus.isStandardError name = true := by
      intro hany
      obtain ⟨ending, hm, he⟩ := List.any_eq_true.mp hany
      exact List.find?_eq_none.mp hf ending hm he
    simp only [StandardFailure.downstream, CallFailure.downstream, DownstreamError.asStandard,
      if_neg hs]

theorem KitClient.propertyValue_failure (hc : DBus.Carries args message) :
    propertyValue (.failure name args) = .error (DownstreamError.asStandard ⟨name, message⟩) := by
  simp only [propertyValue, failureOf, hc.errorMessage, StandardFailure.downstream_ofCall]

theorem KitClient.answer_property {property : String}
    (ha : peer.answer (client.send (.property property)) = .failure name args)
    (hc : DBus.Carries args message) :
    (client.kit peer).answer (.property property) =
      some (.error (.downstream (DownstreamError.asStandard ⟨name, message⟩))) := by
  simp only [Kit.answer, KitClient.kit, ha, propertyValue_failure hc, Option.map_some]

end

/-- The errors of RealtimeKit get through unchanged when it is asked for a priority, from its
answer to the reply that the caller is sent, and a reply read as an answer is the same error again.
All other replies go by the portal's own name; no reply has a name that is none. -/
theorem thread_errors_relayed (κ : Type) :
    (∀ (e : DownstreamError) (sender : Option String), e.Sendable →
      ∃ reply, (PortalError.realtime (.downstream e)).reply sender = .ok reply ∧
        reply.Tells e sender) ∧
    (∀ (client : KitClient) (peer : DBus.Peer) (process task : UInt64) (priority : Priority)
      (name : String) (args : List DBus.Value) (message : Option String),
      peer.answer (client.send (.thread process task priority)) = .failure name args →
      DBus.Carries args message → DownstreamError.Sendable ⟨name, message⟩ →
        Relayed κ (client.kit peer) (.thread process task priority) ⟨name, message⟩) ∧
    (∀ e : PortalError, (∀ d, e = .realtime (.downstream d) → DBus.isErrorName d.name = false) →
      e.name = "org.freedesktop.portal.Error.Failed") ∧
    (∀ (e : PortalError) (sender : Option String) (reply : ErrorReply),
      e.reply sender = .ok reply → reply.name = e.name ∧ reply.destination = sender ∧
        DBus.isErrorName reply.name = true) := by
  refine ⟨?_, ?_, fun e h => PortalError.name_of_own h, ?_⟩
  · intro e sender h
    exact ⟨_, h.reply sender, e.tells sender⟩
  · intro client peer process task priority name args message ha hc hs
    exact relayed_of_answer hs (KitClient.answer_thread ha hc)
  · intro e sender reply h
    obtain rfl := PortalError.reply_ok h
    exact ⟨rfl, rfl, e.name_valid⟩

def sampleClient : KitClient :=
  ⟨"org.freedesktop.RealtimeKit1", "/org/freedesktop/RealtimeKit1", "org.freedesktop.RealtimeKit1"⟩

def refusingPeer (name : String) (args : List DBus.Value) : DBus.Peer :=
  ⟨"org.freedesktop.RealtimeKit1", fun _ => .failure name args⟩

def refusingSurroundings (name : String) (args : List DBus.Value) : Surroundings Unit where
  pidOf _ := .ok 5000
  kit _ := sampleClient.kit (refusingPeer name args)
  now := ⟨0⟩

theorem accessDenied_sendable :
    DownstreamError.Sendable ⟨"org.freedesktop.DBus.Error.AccessDenied", some "Not permitted"⟩ where
  name := by decide
  message := by
    rintro text ⟨⟩
    decide

theorem thread_errors_relayed_sample :
    ((sampleExports.onTree sampleInbound.tree).answer
      (refusingSurroundings "org.freedesktop.DBus.Error.AccessDenied" [.string "Not permitted"])
      sampleInbound.message).answer =
        some (.failure "org.freedesktop.DBus.Error.AccessDenied" [.string "Not permitted"]) := by
  have relayed := (thread_errors_relayed Unit).2.1 sampleClient (refusingPeer _ _) 9001 43
    (.realtime 10) _ _ _ rfl (.text "Not permitted" []) accessDenied_sendable
  have reaches : (PortalCall.thread 42 43 (.realtime 10)).Reaches
      Settings.standard.portal.objectPath sampleInbound.message :=
    ⟨rfl, rfl, by simp [sampleInbound, PortalCall.ofMessage, DBus.unpacked]⟩
  have serves : (sampleExports.onTree sampleInbound.tree).Serves .standard
      ((Portal.ofSettings .standard ⟨[]⟩ ()).onTree sampleInbound.tree) :=
    Exports.Serves.onTree ⟨rfl, rfl, rfl, rfl, fun _ hq => absurd hq List.not_mem_nil⟩ _
  refine relayed.sender _ _ _ () rfl ?_
  rw [serves.answer_reached reaches]
  decide +kernel

/-- An error in answer to the reading of a property gets through too, and unchanged just where it
is no standard error without a message; such an error has an empty message from then on. -/
theorem property_errors_relayed (κ : Type) (client : KitClient) (peer : DBus.Peer)
    (property name : String) (args : List DBus.Value) (message : Option String)
    (answered : peer.answer (client.send (.property property)) = .failure name args)
    (carried : DBus.Carries args message) (sendable : DownstreamError.Sendable ⟨name, message⟩) :
    ∃ told : DownstreamError, told.name = name ∧
      KitClient.propertyValue (.failure name args) = .error told ∧
      Relayed κ (client.kit peer) (.property property) told ∧
      (KitClient.granted (.failure name args) = .error told ↔
        ¬ (DBus.isStandardError name = true ∧ message = none)) ∧
      (DBus.isStandardError name = true → told.message = some (message.getD "")) := by
  refine ⟨DownstreamError.asStandard ⟨name, message⟩, rfl, ?_, ?_, ?_, fun hs => if_pos hs⟩
  · exact KitClient.propertyValue_failure carried
  · exact relayed_of_answer sendable.asStandard (KitClient.answer_property answered carried)
  · rw [KitClient.granted_failure carried, Except.error.injEq, eq_comm]
    exact DownstreamError.asStandard_eq_iff ⟨name, message⟩

theorem property_errors_relayed_sample :
    ∃ told : DownstreamError, told.name = "org.freedesktop.DBus.Error.AccessDenied" ∧
      KitClient.granted (.failure "org.freedesktop.DBus.Error.AccessDenied"
        [.string "Not permitted"]) = .error told := by
  obtain ⟨told, hname, -, -, hsame, -⟩ := property_errors_relayed Unit sampleClient
    (refusingPeer "org.freedesktop.DBus.Error.AccessDenied" [.string "Not permitted"])
    "MaxRealtimePriority" _ _ _ rfl (.text "Not permitted" []) accessDenied_sendable
  exact ⟨told, hname, hsame.mpr fun h => nomatch h.2⟩

/-- A standard error without a message is told of without one to who asks for a priority, and with
an empty one to who reads a property. -/
theorem silent_error_gains_message :
    KitClient.granted (.failure "org.freedesktop.DBus.Error.NoReply" []) =
      .error ⟨"org.freedesktop.DBus.Error.NoReply", none⟩ ∧
    KitClient.propertyValue (.failure "org.freedesktop.DBus.Error.NoReply" []) =
      .error ⟨"org.freedesktop.DBus.Error.NoReply", some ""⟩ := by
  constructor <;> rfl

end PriorityPortal
