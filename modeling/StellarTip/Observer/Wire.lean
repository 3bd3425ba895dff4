import StellarTip.Contract.Host

/-!
# Events on the wire

The host records an event as a list of topics and a payload, made of untyped values. Every event of the
contract has two topics, a short symbol and the address of the caller, and its payload is nothing, one
value or a tuple. An observer who knows the symbols gets the event back, and accepts nothing else.
-/

namespace StellarTip

open Foundation

variable {Address Symbol : Type}

/-- The values of the host that occur in events. A tuple is a vector of its components. -/
inductive ScVal (Address Symbol : Type) where
  | void
  | symbol (symbol : Symbol)
  | address (address : Address)
  | u32 (value : U32)
  | u64 (value : U64)
  | i128 (value : I128)
  | string (value : HostString)
  | vec (values : List (ScVal Address Symbol))

structure WireEvent (Address Symbol : Type) where
  topics : List (ScVal Address Symbol)
  data : ScVal Address Symbol

/-- The kinds of events, one for each constant `EVENT_*` of the source. -/
inductive EventName where
  | init
  | adminChanged
  | paused
  | unpaused
  | feeChanged
  | feeRecipientChanged
  | maxCreatorsChanged
  | maxTipsChanged
  | minTipChanged
  | creatorRegistered
  | profileUpdated
  | creatorUnregistered
  | tipSent
  | withdraw
  deriving DecidableEq

namespace EventName

/-- The argument of `symbol_short!` in the constant. -/
def text : EventName → String
  | init => "INIT"
  | adminChanged => "ADMC"
  | paused => "PAUS"
  | unpaused => "UNPA"
  | feeChanged => "FEEC"
  | feeRecipientChanged => "FERC"
  | maxCreatorsChanged => "CAPMC"
  | maxTipsChanged => "CAPMT"
  | minTipChanged => "MINTC"
  | creatorRegistered => "CREG"
  | profileUpdated => "PUPD"
  | creatorUnregistered => "UREG"
  | tipSent => "TIP"
  | withdraw => "WDRW"

def all : List EventName :=
  [init, adminChanged, paused, unpaused, feeChanged, feeRecipientChanged, maxCreatorsChanged,
    maxTipsChanged, minTipChanged, creatorRegistered, profileUpdated, creatorUnregistered, tipSent,
    withdraw]

theorem mem_all (name : EventName) : name ∈ all := by
  cases name <;> decide

/-- No two constants have the same text. -/
theorem text_injective : Function.Injective text := by
  intro name other h
  have hall : ∀ name ∈ all, ∀ other ∈ all, name.text = other.text → name = other := by decide
  exact hall name name.mem_all other other.mem_all h

end EventName

/-- How the SDK turns texts into values: `symbol_short!`, which keeps the names of the events apart,
and the conversion of a string literal. -/
structure Encoding (Address Symbol : Type) where
  symbolShort : String → Symbol
  literal : String → ScVal Address Symbol
  symbolShort_inj : ∀ name other : EventName, symbolShort name.text = symbolShort other.text →
    name = other

namespace Event

def name : Event Address Symbol → EventName
  | init .. => .init
  | adminChanged .. => .adminChanged
  | paused .. => .paused
  | unpaused .. => .unpaused
  | feeChanged .. => .feeChanged
  | feeRecipientChanged .. => .feeRecipientChanged
  | maxCreatorsChanged .. => .maxCreatorsChanged
  | maxTipsChanged .. => .maxTipsChanged
  | minTipChanged .. => .minTipChanged
  | creatorRegistered .. => .creatorRegistered
  | profileUpdated .. => .profileUpdated
  | creatorUnregistered .. => .creatorUnregistered
  | tipSent .. => .tipSent
  | withdraw .. => .withdraw

/-- The address among the topics. -/
def subject : Event Address Symbol → Address
  | init caller _ _ | adminChanged caller _ | paused caller | unpaused caller | feeChanged caller _
  | feeRecipientChanged caller _ | maxCreatorsChanged caller _ | maxTipsChanged caller _
  | minTipChanged caller _ | creatorRegistered caller _ _ | profileUpdated caller _ _
  | creatorUnregistered caller | withdraw caller _ _ => caller
  | tipSent sender _ _ _ _ _ => sender

/-- The second argument of `publish`. -/
def payload : Event Address Symbol → ScVal Address Symbol
  | init _ feeRecipient feeBps => .vec [.address feeRecipient, .u32 feeBps]
  | adminChanged _ newAdmin => .address newAdmin
  | paused _ | unpaused _ | creatorUnregistered _ => .void
  | feeChanged _ feeBps => .u32 feeBps
  | feeRecipientChanged _ feeRecipient => .address feeRecipient
  | maxCreatorsChanged _ maxCreators => .u32 maxCreators
  | maxTipsChanged _ maxTips => .u32 maxTips
  | minTipChanged _ minTipAmount => .i128 minTipAmount
  | creatorRegistered _ username registeredAt => .vec [.symbol username, .u64 registeredAt]
  | profileUpdated _ username displayName => .vec [.symbol username, .string displayName]
  | tipSent _ creator token amount fee index =>
      .vec [.address creator, .address token, .i128 amount, .i128 fee, .u64 index]
  | withdraw _ token amount => .vec [.address token, .i128 amount]

variable (encoding : Encoding Address Symbol)

/-- What `env.events().publish(..)` records. -/
def wire (event : Event Address Symbol) : WireEvent Address Symbol :=
  ⟨[.symbol (encoding.symbolShort event.name.text), .address event.subject], event.payload⟩

end Event

/-- The event of a given kind with a given payload. -/
def EventName.event (subject : Address) :
    EventName → ScVal Address Symbol → Option (Event Address Symbol)
  | .init, .vec [.address feeRecipient, .u32 feeBps] => some (.init subject feeRecipient feeBps)
  | .adminChanged, .address newAdmin => some (.adminChanged subject newAdmin)
  | .paused, .void => some (.paused subject)
  | .unpaused, .void => some (.unpaused subject)
  | .feeChanged, .u32 feeBps => some (.feeChanged subject feeBps)
  | .feeRecipientChanged, .address feeRecipient => some (.feeRecipientChanged subject feeRecipient)
  | .maxCreatorsChanged, .u32 maxCreators => some (.maxCreatorsChanged subject maxCreators)
  | .maxTipsChanged, .u32 maxTips => some (.maxTipsChanged subject maxTips)
  | .minTipChanged, .i128 minTipAmount => some (.minTipChanged subject minTipAmount)
  | .creatorRegistered, .vec [.symbol username, .u64 registeredAt] =>
      some (.creatorRegistered subject username registeredAt)
  | .profileUpdated, .vec [.symbol username, .string displayName] =>
      some (.profileUpdated subject username displayName)
  | .creatorUnregistered, .void => some (.creatorUnregistered subject)
  | .tipSent, .vec [.address creator, .address token, .i128 amount, .i128 fee, .u64 index] =>
      some (.tipSent subject creator token amount fee index)
  | .withdraw, .vec [.address token, .i128 amount] => some (.withdraw subject token amount)
  | _, _ => none

variable [DecidableEq Symbol] (encoding : Encoding Address Symbol)

/-- What an observer makes of a recorded event. -/
def WireEvent.event (recorded : WireEvent Address Symbol) : Option (Event Address Symbol) :=
  match recorded.topics with
  | [.symbol symbol, .address subject] =>
      (EventName.all.find? fun name ↦ encoding.symbolShort name.text = symbol).bind fun name ↦
        name.event subject recorded.data
  | _ => none

omit [DecidableEq Symbol] in
theorem EventName.event_eq_some_iff {subject : Address} {name : EventName}
    {data : ScVal Address Symbol} {event : Event Address Symbol} :
    name.event subject data = some event ↔
      event.name = name ∧ event.subject = subject ∧ event.payload = data := by
  constructor
  · intro h
    unfold EventName.event at h
    split at h <;> first | cases h; exact ⟨rfl, rfl, rfl⟩ | cases h
  · rintro ⟨rfl, rfl, rfl⟩
    cases event <;> rfl

variable {encoding}

theorem Encoding.find_eq_some_iff {symbol : Symbol} {name : EventName} :
    EventName.all.find? (fun name ↦ decide (encoding.symbolShort name.text = symbol)) = some name ↔
      encoding.symbolShort name.text = symbol := by
  constructor
  · intro h
    simpa using List.find?_some h
  · rintro rfl
    cases hfind : EventName.all.find? fun other ↦
        decide (encoding.symbolShort other.text = encoding.symbolShort name.text) with
    | none =>
      have hnone := List.find?_eq_none.mp hfind name name.mem_all
      simp at hnone
    | some other =>
      have hother : encoding.symbolShort other.text = encoding.symbolShort name.text := by
        simpa using List.find?_some hfind
      rw [encoding.symbolShort_inj other name hother]

/-- Publishing and reading are inverse to each other: what is read is what was published, and nothing
else is read at all. -/
theorem WireEvent.event_eq_some_iff {recorded : WireEvent Address Symbol}
    {event : Event Address Symbol} :
    recorded.event encoding = some event ↔ recorded = event.wire encoding := by
  constructor
  · intro h
    obtain ⟨topics, data⟩ := recorded
    unfold WireEvent.event at h
    split at h
    · rename_i symbol subject htopics
      obtain ⟨name, hname, hevent⟩ := Option.bind_eq_some_iff.mp h
      obtain ⟨rfl, rfl, rfl⟩ := EventName.event_eq_some_iff.mp hevent
      obtain rfl : topics = _ := htopics
      rw [← Encoding.find_eq_some_iff.mp hname]
      rfl
    · cases h
  · rintro rfl
    refine Option.bind_eq_some_iff.mpr ⟨event.name, Encoding.find_eq_some_iff.mpr rfl, ?_⟩
    exact EventName.event_eq_some_iff.mpr ⟨rfl, rfl, rfl⟩

end StellarTip
