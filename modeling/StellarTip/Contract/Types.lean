import StellarTip.Foundation.BoundedInt
import StellarTip.Foundation.SortedSet

/-!
# Data types of the tip contract

The storage keys with the type of the value stored under each, the two records kept for creators,
the error codes, the events and the constants of `src/lib.rs`. Addresses and symbols are opaque:
addresses carry the total order in which the host enumerates map keys, symbols only equality.
-/

namespace StellarTip

open Foundation

/-- A host string is an arbitrary byte string; its length is counted in bytes. -/
abbrev HostString := List UInt8

/-- Public profile information for a creator. -/
structure CreatorProfile (Symbol : Type) where
  username : Symbol
  displayName : HostString
  bio : HostString
  registeredAt : U64
  deriving DecidableEq

/-- A single tip that has been sent to a creator; `sender` is the source's `from`. -/
structure Tip (Address : Type) where
  sender : Address
  token : Address
  amount : I128
  message : HostString
  timestamp : U64
  deriving DecidableEq

/-- Storage keys used for persistent and instance storage. -/
inductive DataKey (Address Symbol : Type) where
  | admin
  | paused
  | feeBps
  | feeRecipient
  | maxCreators
  | maxTipsPerCreator
  | minTipAmount
  | creatorCount
  | profile (address : Address)
  | usernameToAddress (username : Symbol)
  | balance (creator token : Address)
  | tipCount (creator : Address)
  | tip (creator : Address) (index : U64)
  | creatorTokens (creator : Address)
  deriving DecidableEq

/-- The type of the value stored under a key. The token set `Map<Address, ()>` is its set of
keys. -/
abbrev DataKey.Value {Address Symbol : Type} [LinearOrder Address] :
    DataKey Address Symbol → Type
  | .admin => Address
  | .paused => Bool
  | .feeBps => U32
  | .feeRecipient => Address
  | .maxCreators => U32
  | .maxTipsPerCreator => U32
  | .minTipAmount => I128
  | .creatorCount => U32
  | .profile _ => CreatorProfile Symbol
  | .usernameToAddress _ => Address
  | .balance _ _ => I128
  | .tipCount _ => U64
  | .tip _ _ => Tip Address
  | .creatorTokens _ => SortedSet Address

/-- The keys of the configuration, which `init` writes and the admin setters rewrite. -/
def DataKey.IsConfig {Address Symbol : Type} : DataKey Address Symbol → Prop
  | .admin | .paused | .feeBps | .feeRecipient | .maxCreators | .maxTipsPerCreator
  | .minTipAmount => True
  | _ => False

inductive TipError where
  | creatorAlreadyExists
  | creatorNotFound
  | usernameTaken
  | insufficientBalance
  | transferFailed
  | invalidAmount
  | noTips
  | notInitialized
  | alreadyInitialized
  | paused
  | notAuthorized
  | invalidInput
  | balanceNotEmpty
  | capExceeded
  | feeRecipientNotSet
  | belowMinimum
  deriving DecidableEq

/-- The contract-error discriminant that a client sees as `#N`. -/
def TipError.code : TipError → ℕ
  | .creatorAlreadyExists => 1
  | .creatorNotFound => 2
  | .usernameTaken => 3
  | .insufficientBalance => 4
  | .transferFailed => 5
  | .invalidAmount => 6
  | .noTips => 7
  | .notInitialized => 8
  | .alreadyInitialized => 9
  | .paused => 10
  | .notAuthorized => 11
  | .invalidInput => 12
  | .balanceNotEmpty => 13
  | .capExceeded => 14
  | .feeRecipientNotSet => 15
  | .belowMinimum => 16

/-- Clients branch on the code alone, so it identifies the error. -/
theorem TipError.code_injective : Function.Injective TipError.code := by
  intro left right h
  cases left <;> cases right <;> first | rfl | cases h

/-- The events of the contract: the address topic first, then the payload. The symbols of the
first topic are `INIT`, `ADMC`, `PAUS`, `UNPA`, `FEEC`, `FERC`, `CAPMC`, `CAPMT`, `MINTC`, `CREG`,
`PUPD`, `UREG`, `TIP` and `WDRW`, in this order. -/
inductive Event (Address Symbol : Type) where
  | init (caller feeRecipient : Address) (feeBps : U32)
  | adminChanged (caller newAdmin : Address)
  | paused (caller : Address)
  | unpaused (caller : Address)
  | feeChanged (caller : Address) (feeBps : U32)
  | feeRecipientChanged (caller feeRecipient : Address)
  | maxCreatorsChanged (caller : Address) (maxCreators : U32)
  | maxTipsChanged (caller : Address) (maxTips : U32)
  | minTipChanged (caller : Address) (minTipAmount : I128)
  | creatorRegistered (caller : Address) (username : Symbol) (registeredAt : U64)
  | profileUpdated (caller : Address) (username : Symbol) (displayName : HostString)
  | creatorUnregistered (caller : Address)
  | tipSent (sender creator token : Address) (amount fee : I128) (index : U64)
  | withdraw (caller token : Address) (amount : I128)
  deriving DecidableEq

/-- The version of the contract that clients ask for. -/
def CONTRACT_VERSION : U32 := ⟨3, by decide, by decide⟩

/-- Maximum platform fee in basis points (100% = 10_000 bps). -/
def MAX_FEE_BPS : U32 := ⟨10000, by decide, by decide⟩

/-- Display name max length in bytes. -/
def MAX_DISPLAY_NAME_LEN : ℕ := 64

/-- Bio max length in bytes. -/
def MAX_BIO_LEN : ℕ := 256

@[simp] theorem MAX_FEE_BPS_val : MAX_FEE_BPS.val = 10000 := rfl

end StellarTip
