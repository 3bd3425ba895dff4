import StellarTip.Contract.Types
import StellarTip.Foundation.KeyedStore
import StellarTip.Foundation.Transaction

/-!
# The host around the contract

Storage has an instance tier and a persistent tier. The token contracts live outside: their joint
state is an arbitrary `World`, and a transfer either fails, reporting an error of its own, or
yields a new world. The host forbids re-entrancy, so a token call never touches the storage of its
caller. An invocation runs on a `Frame`; a failure has no frame, which is the host's rollback of
storage, token ledgers and events.

The ledger number until which an entry lives is not represented, since no function of the contract
reads it. What an extension can do to a run is kept: extending an absent persistent entry traps.
-/

namespace StellarTip

open Foundation

/-- How a called token contract fails: with an error code of its own, or by a trap of the host. -/
inductive CalleeError where
  | code (code : U32)
  | trap
  deriving DecidableEq

/-- Why an invocation is rolled back. -/
inductive Failure where
  /-- `panic_with_error!` with a code of this contract. -/
  | tipError (error : TipError)
  /-- `require_auth` on an address whose authorization is missing. -/
  | unauthorized
  /-- An arithmetic result out of range, trapped by `overflow-checks`. -/
  | overflow
  /-- A TTL extension of an absent storage entry. -/
  | missingEntry
  /-- The failure of a called contract, which `token::Client` passes on. -/
  | callee (error : CalleeError)
  deriving DecidableEq

/-- What surrounds the contract for its whole life. `transfer world token sender recipient amount`
is the `transfer` function of `token`; `balance` reads a token ledger; `outside` relates the token
worlds before and after whatever happens between two invocations of this contract. -/
structure Host (Address World : Type) where
  currentContractAddress : Address
  addressFromString : String → Address
  transfer : World → Address → Address → Address → I128 → Except CalleeError World
  balance : World → Address → Address → ℤ
  outside : World → World → Prop

/-- What one invocation sees. An address is `authorized` when the host grants its authorization for
the invocation. A contract address is authorized only as the direct invoker or through a
`__check_auth` of its own; this contract has no such function and never invokes itself, so its own
address is never authorized. -/
structure Env {Address World : Type} (host : Host Address World) where
  timestamp : U64
  authorized : Address → Bool
  contract_unauthorized : authorized host.currentContractAddress = false

/-- An authorized address is not the contract itself. -/
theorem Env.ne_of_authorized {Address World : Type} {host : Host Address World} (env : Env host)
    {address : Address} (h : env.authorized address = true) :
    host.currentContractAddress ≠ address := by
  rintro rfl
  rw [env.contract_unauthorized] at h
  cases h

variable {Address Symbol World : Type} [LinearOrder Address] [DecidableEq Symbol]

abbrev Store (Address Symbol : Type) [LinearOrder Address] :=
  KeyedStore (DataKey Address Symbol) DataKey.Value

structure Storage (Address Symbol : Type) [LinearOrder Address] where
  instanceTier : Store Address Symbol
  persistentTier : Store Address Symbol

namespace Storage

def empty : Storage Address Symbol := ⟨KeyedStore.empty, KeyedStore.empty⟩

variable (storage : Storage Address Symbol)

def setInstance (key : DataKey Address Symbol) (value : key.Value) : Storage Address Symbol :=
  { storage with instanceTier := storage.instanceTier.set key value }

def removeInstance (key : DataKey Address Symbol) : Storage Address Symbol :=
  { storage with instanceTier := storage.instanceTier.remove key }

def setPersistent (key : DataKey Address Symbol) (value : key.Value) : Storage Address Symbol :=
  { storage with persistentTier := storage.persistentTier.set key value }

def removePersistent (key : DataKey Address Symbol) : Storage Address Symbol :=
  { storage with persistentTier := storage.persistentTier.remove key }

variable (key : DataKey Address Symbol) (value : key.Value)

@[simp] theorem instanceTier_setInstance :
    (storage.setInstance key value).instanceTier = storage.instanceTier.set key value := rfl

@[simp] theorem instanceTier_removeInstance :
    (storage.removeInstance key).instanceTier = storage.instanceTier.remove key := rfl

@[simp] theorem instanceTier_setPersistent :
    (storage.setPersistent key value).instanceTier = storage.instanceTier := rfl

@[simp] theorem instanceTier_removePersistent :
    (storage.removePersistent key).instanceTier = storage.instanceTier := rfl

@[simp] theorem persistentTier_setInstance :
    (storage.setInstance key value).persistentTier = storage.persistentTier := rfl

@[simp] theorem persistentTier_removeInstance :
    (storage.removeInstance key).persistentTier = storage.persistentTier := rfl

@[simp] theorem persistentTier_setPersistent :
    (storage.setPersistent key value).persistentTier = storage.persistentTier.set key value := rfl

@[simp] theorem persistentTier_removePersistent :
    (storage.removePersistent key).persistentTier = storage.persistentTier.remove key := rfl

omit [DecidableEq Symbol] in
@[ext]
theorem ext {left right : Storage Address Symbol}
    (hinstance : left.instanceTier = right.instanceTier)
    (hpersistent : left.persistentTier = right.persistentTier) : left = right := by
  cases left
  cases right
  simp_all

end Storage

/-- A token transfer that the contract issued. -/
structure Transfer (Address : Type) where
  token : Address
  sender : Address
  recipient : Address
  amount : I128
  deriving DecidableEq

/-- The state of a running invocation: storage, the token world, and the events and token
transfers so far, in order. -/
structure Frame (Address Symbol World : Type) [LinearOrder Address] where
  storage : Storage Address Symbol
  world : World
  events : List (Event Address Symbol)
  transfers : List (Transfer Address)

abbrev Contract (Address Symbol World : Type) [LinearOrder Address] :=
  Transaction (Frame Address Symbol World) Failure

section HostFunctions

variable {host : Host Address World} {α : Type}

def requireAuth (env : Env host) (address : Address) : Contract Address Symbol World Unit :=
  Transaction.rejectIf (env.authorized address = false) .unauthorized

/-- `if condition { panic_with_error!(env, error); }` -/
def panicIf (condition : Prop) [Decidable condition] (error : TipError) :
    Contract Address Symbol World Unit :=
  Transaction.rejectIf condition (.tipError error)

/-- `value.unwrap_or_else(|| panic_with_error!(env, error))` -/
def unwrapOrPanic (value : Option α) (error : TipError) : Contract Address Symbol World α :=
  Transaction.demand value (.tipError error)

/-- An arithmetic operation under `overflow-checks = true`. -/
def arithmetic (value : Option α) : Contract Address Symbol World α :=
  Transaction.demand value .overflow

def instanceGet (key : DataKey Address Symbol) :
    Contract Address Symbol World (Option key.Value) :=
  Transaction.query fun frame ↦ frame.storage.instanceTier.get key

def instanceHas (key : DataKey Address Symbol) : Contract Address Symbol World Bool :=
  Transaction.query fun frame ↦ frame.storage.instanceTier.has key

def instanceSet (key : DataKey Address Symbol) (value : key.Value) :
    Contract Address Symbol World Unit :=
  Transaction.update fun frame ↦ { frame with storage := frame.storage.setInstance key value }

def instanceRemove (key : DataKey Address Symbol) : Contract Address Symbol World Unit :=
  Transaction.update fun frame ↦ { frame with storage := frame.storage.removeInstance key }

def persistentGet (key : DataKey Address Symbol) :
    Contract Address Symbol World (Option key.Value) :=
  Transaction.query fun frame ↦ frame.storage.persistentTier.get key

def persistentHas (key : DataKey Address Symbol) : Contract Address Symbol World Bool :=
  Transaction.query fun frame ↦ frame.storage.persistentTier.has key

def persistentSet (key : DataKey Address Symbol) (value : key.Value) :
    Contract Address Symbol World Unit :=
  Transaction.update fun frame ↦ { frame with storage := frame.storage.setPersistent key value }

def persistentRemove (key : DataKey Address Symbol) : Contract Address Symbol World Unit :=
  Transaction.update fun frame ↦ { frame with storage := frame.storage.removePersistent key }

def publish (event : Event Address Symbol) : Contract Address Symbol World Unit :=
  Transaction.update fun frame ↦ { frame with events := frame.events ++ [event] }

/-- `token::Client::transfer`: a failure of the token contract fails the calling invocation. -/
def tokenTransfer (host : Host Address World) (transfer : Transfer Address) :
    Contract Address Symbol World Unit := fun frame ↦
  match host.transfer frame.world transfer.token transfer.sender transfer.recipient
      transfer.amount with
  | .ok world =>
      .ok ((), { frame with world, transfers := frame.transfers ++ [transfer] })
  | .error error => .error (.callee error)

/-- The instance entry always exists, so extending its TTL cannot fail. -/
def extendInstanceTtl : Contract Address Symbol World Unit := pure ()

def extendPersistentTtl (key : DataKey Address Symbol) : Contract Address Symbol World Unit := do
  let present ← persistentHas key
  Transaction.rejectIf (present = false) .missingEntry

end HostFunctions

end StellarTip
