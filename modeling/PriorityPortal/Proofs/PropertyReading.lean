import PriorityPortal.Proofs.ErrorRelay
import PriorityPortal.Proofs.Signatures
/-!
# Reading properties

A property has a value for its reader just if the variant in the answer holds a bare integer of 64
or 32 bits with a sign. Whatever else is in it, the reader is told of the type and of nothing more.
-/
namespace PriorityPortal

namespace DBus

/-- The values that count as integers. One of 32 bits keeps its value and sign. -/
inductive Value.IsInteger : Value → Int64 → Prop where
  | int64 (n : Int64) : IsInteger (.int64 n) n
  | int32 {m : Int32} {n : Int64} (same : n.toInt = m.toInt) : IsInteger (.int32 m) n

/-- The arguments of a reply that hold a value in their variant. Parentheses around all of them do
not count. -/
inductive Holds : List Value → Value → Prop where
  | bare (value : Value) : Holds [.variant value] value
  | enclosed {args : List Value} {value : Value} (held : Holds args value) :
      Holds [.struct args] value

section

variable {args : List Value} {value : Value} {kind : Kind}

theorem holds_iff : unpacked args = [.variant value] ↔ Holds args value := by
  constructor
  · intro h
    fun_induction unpacked args with
    | case1 fields ih => exact .enclosed (ih h)
    | case2 args hn =>
      subst h
      exact .bare value
  · intro h
    induction h with
    | bare value => simp [unpacked]
    | enclosed held ih => simpa [unpacked] using ih

theorem peel_enclosed (tries : Nat) (cs : List Char) :
    peel 1 (tries + 1) ('(' :: cs ++ [')']) = peel 1 tries cs := by
  have hlast : ('(' :: cs ++ [')']).getLast? = some ')' := List.getLast?_concat
  rw [peel, if_pos ⟨by simp, rfl, hlast⟩]
  simp

theorem peel_letter (size tries : Nat) : peel size tries ['v'] = ['v'] := by
  cases tries <;> simp [peel]

theorem Holds.peel (held : Holds args value) (tries : Nat)
    (enough : (Value.bodySignature args).toList.length ≤ tries) :
    DBus.peel 1 tries (Value.bodySignature args).toList = ['v'] := by
  induction held generalizing tries with
  | bare value =>
    have htext : (Value.bodySignature [.variant value]).toList = ['v'] := by
      simp [Value.bodySignature, Value.kinds, Value.kind, Kind.textAll, Kind.text]
    rw [htext, peel_letter]
  | @enclosed args value held ih =>
    have htext : (Value.bodySignature [.struct args]).toList =
        '(' :: (Value.bodySignature args).toList ++ [')'] := by
      simp [Value.bodySignature, Value.kinds, Value.kind, Kind.textAll, Kind.text]
    rw [htext, List.length_append, List.length_cons, List.length_singleton] at enough
    obtain ⟨tries, rfl⟩ : ∃ t, tries = t + 1 := ⟨tries - 1, by omega⟩
    rw [htext, peel_enclosed]
    exact ih tries (by omega)

theorem Holds.signaturesAgree (held : Holds args value) :
    signaturesAgree (Value.bodySignature args) "v" = true := by
  have hletter : "v".toList = ['v'] := rfl
  simp only [DBus.signaturesAgree, hletter, peel_letter, List.length_singleton,
    held.peel _ (Nat.le_refl _), beq_self_eq_true]

end

end DBus

section

variable {value : DBus.Value} {kind : DBus.Kind} {n : Int64}

theorem asInt64?_asProperty_iff : value.asProperty.asInt64? = some n ↔ value.IsInteger n := by
  constructor
  · intro h
    cases value with
    | int64 m =>
      obtain rfl := Option.some.inj h
      exact .int64 m
    | int32 m =>
      obtain rfl := Option.some.inj h
      exact .int32 (Int32.toInt_toInt64 m)
    | _ => cases h
  · intro h
    cases h with
    | int64 => rfl
    | @int32 m _ same =>
      refine congrArg some (Int64.toInt_inj.mp ?_)
      rw [same]
      exact Int32.toInt_toInt64 m

theorem signature_asProperty (held : value.HasKind kind) :
    value.asProperty.signature = kind.text := by
  obtain rfl := held.kind_eq
  cases value <;> rfl

theorem KitClient.propertyValue_held {args : List DBus.Value} (held : DBus.Holds args value) :
    propertyValue (.reply args) = .ok value.asProperty := by
  simp only [propertyValue, held.signaturesAgree, DBus.holds_iff.mpr held]

theorem KitClient.propertyValue_ok {answer : DBus.Answer} {property : Property}
    (h : propertyValue answer = .ok property) :
    ∃ args value, answer = .reply args ∧ DBus.Holds args value ∧ value.asProperty = property := by
  cases answer with
  | failure name args => cases h
  | reply args =>
    simp only [propertyValue] at h
    split at h
    next value _ hargs =>
      exact ⟨args, value, rfl, DBus.holds_iff.mp hargs, Except.ok.inj h⟩
    next => cases h

theorem Property.result_ok_iff {property : Property} :
    property.result = .ok (.value n) ↔ property.asInt64? = some n := by
  unfold Property.result
  cases property.asInt64? <;> simp

theorem Property.result_of_none {property : Property} (h : property.asInt64? = none) :
    property.result = .error (.invalidResponse property.signature) := by
  unfold Property.result
  rw [h]

theorem KitClient.answer_held {client : KitClient} {peer : DBus.Peer} {name : String}
    {args : List DBus.Value} (ha : peer.answer (client.send (.property name)) = .reply args)
    (held : DBus.Holds args value) :
    (client.kit peer).answer (.property name) = some value.asProperty.result := by
  simp only [Kit.answer, KitClient.kit, ha, propertyValue_held held, Option.map_some]

/-- A reading that has a value has it from an integer in the answer. -/
theorem KitClient.answer_value {client : KitClient} {peer : DBus.Peer} {name : String}
    (h : (client.kit peer).answer (.property name) = some (.ok (.value n))) :
    ∃ args value, peer.answer (client.send (.property name)) = .reply args ∧
      DBus.Holds args value ∧ value.IsInteger n := by
  simp only [Kit.answer, KitClient.kit, Option.map_some, Option.some.injEq] at h
  split at h
  next property hp =>
    obtain ⟨args, value, hargs, held, rfl⟩ := propertyValue_ok hp
    exact ⟨args, value, hargs, held, asInt64?_asProperty_iff.mp (Property.result_ok_iff.mp h)⟩
  next => cases h

/-- A request for a property asks RealtimeKit for it as soon as it comes in. -/
theorem Relay.looksFor_start {r : Relay} {services : Services} {key : Nat} (sender name : String)
    (fresh : r.find? key = none) :
    r.LooksFor services (.start key (.property sender name)) (.property name) := by
  refine .made ?_
  rw [next_start fresh]
  exact List.mem_singleton.mpr rfl

end

/-- What the reader of a property gets from an answer of RealtimeKit: the integer in it if its
value is one, else the type of its value. -/
structure ReadsExactly (client : KitClient) (peer : DBus.Peer) (name : String)
    (seen : Seen Result) : Prop where
  value : ∀ n, seen = .done (.ok (.value n)) ↔ ∃ args value,
    peer.answer (client.send (.property name)) = .reply args ∧ DBus.Holds args value ∧
      value.IsInteger n
  other : ∀ args value kind, peer.answer (client.send (.property name)) = .reply args →
    DBus.Holds args value → value.HasKind kind → (∀ n, ¬ value.IsInteger n) →
      seen = .done (.error (.invalidResponse kind.text))

/-- The type of a value, as the reader of a property is told of it, gives no other value away as an
integer. -/
structure ClassifiedExactly (value : DBus.Value) (kind : DBus.Kind) : Prop where
  signature : value.asProperty.signature = kind.text
  integer : ∀ n, value.asProperty.asInt64? = some n ↔ value.IsInteger n
  int64 : kind.text = "x" ↔ ∃ n, value = .int64 n
  int32 : kind.text = "i" ↔ ∃ n, value = .int32 n

theorem classifiedExactly {value : DBus.Value} {kind : DBus.Kind} (held : value.HasKind kind) :
    ClassifiedExactly value kind := by
  refine ⟨signature_asProperty held, fun n => asInt64?_asProperty_iff, ?_, ?_⟩
  · constructor
    · intro h
      obtain rfl : kind = .int64 := DBus.Kind.text_injective h
      cases held with
      | int64 n => exact ⟨n, rfl⟩
    · rintro ⟨n, rfl⟩
      cases held
      rfl
  · constructor
    · intro h
      obtain rfl : kind = .int32 := DBus.Kind.text_injective h
      cases held with
      | int32 n => exact ⟨n, rfl⟩
    · rintro ⟨n, rfl⟩
      cases held
      rfl

/-- A property is read as an integer just where RealtimeKit has answered with one, and otherwise
refused with the signature of what it has answered with. -/
theorem properties_read_exactly :
    (∀ (value : DBus.Value) (kind : DBus.Kind), value.HasKind kind →
      ClassifiedExactly value kind) ∧
    (∀ (client : KitClient) (peer : DBus.Peer) (name : String) (r : Relay) (services : Services)
      (event : RelayEvent), services.toKit = client.kit peer →
        r.LooksFor services event (.property name) →
          ReadsExactly client peer name (r.next services event).seen) ∧
    (∀ (r : Relay) (services : Services) (key : Nat) (sender name : String),
      r.find? key = none →
        r.LooksFor services (.start key (.property sender name)) (.property name)) := by
  refine ⟨fun value kind held => classifiedExactly held, ?_, ?_⟩
  · rintro client peer name r services event hkit hl
    have hseen : ∀ result, (client.kit peer).answer (.property name) = some result →
        (r.next services event).seen = .done result := by
      intro result ha
      exact hl.seen (hkit ▸ ha)
    constructor
    · intro n
      constructor
      · intro h
        obtain ⟨result, ha⟩ : ∃ result, (client.kit peer).answer (.property name) = some result :=
          ⟨_, rfl⟩
        rw [hseen result ha, Seen.done.injEq] at h
        exact KitClient.answer_value (h ▸ ha)
      · rintro ⟨args, value, hargs, held, integer⟩
        have hresult : value.asProperty.result = .ok (.value n) :=
          Property.result_ok_iff.mpr (asInt64?_asProperty_iff.mpr integer)
        rw [hseen _ (KitClient.answer_held hargs held), hresult]
    · intro args value kind hargs held typed hnone
      have hno : value.asProperty.asInt64? = none := by
        rw [Option.eq_none_iff_forall_ne_some]
        exact fun n hn => hnone n (asInt64?_asProperty_iff.mp hn)
      rw [hseen _ (KitClient.answer_held hargs held), Property.result_of_none hno,
        signature_asProperty typed]
  · intro r services key sender name fresh
    exact Relay.looksFor_start sender name fresh

def answeringServices (value : DBus.Value) : Services where
  toKit := sampleClient.kit ⟨"org.freedesktop.RealtimeKit1", fun _ => .reply [.variant value]⟩
  mapPid _ process := some (.ok process)
  now := ⟨0⟩

/-- An integer is read as it is, and another variant around it is one too many. -/
theorem properties_read_exactly_sample :
    let read (value : DBus.Value) := ((Relay.initial Settings.standard.kit.routing).next
      (answeringServices value) (.start 0 (.property ":1.7" "MinNiceLevel"))).seen
    read (.int32 (-15)) = .done (.ok (.value (-15))) ∧
      read (.variant (.int32 (-15))) = .done (.error (.invalidResponse "v")) := by
  intro read
  obtain ⟨classified, reads, looks⟩ := properties_read_exactly
  have exact (value : DBus.Value) : ReadsExactly sampleClient _ "MinNiceLevel" (read value) :=
    reads sampleClient _ "MinNiceLevel" (.initial Settings.standard.kit.routing)
      (answeringServices value) (.start 0 (.property ":1.7" "MinNiceLevel")) rfl
      (looks _ _ 0 ":1.7" "MinNiceLevel" rfl)
  have typed : (DBus.Value.variant (.int32 (-15))).HasKind .variant := .variant (.int32 (-15))
  constructor
  · exact ((exact (.int32 (-15))).value (-15)).mpr
      ⟨_, _, rfl, .bare (.int32 (-15)), .int32 (by decide)⟩
  · refine (exact (.variant (.int32 (-15)))).other _ _ .variant rfl (.bare _) typed fun n => ?_
    rw [← (classified _ _ typed).integer]
    exact fun h => nomatch h

end PriorityPortal
