import StellarTip.Contract.Execution
import StellarTip.Lifetime.Script

/-!
# Ledger entries and how long they live

On the ledger, everything in the contract's instance storage is one entry and every persistent key is
an entry of its own. Each entry lives until a ledger number; afterwards it is archived, and a call
that needs it is stopped until somebody restores it. The contract counters this with
`extend_instance_ttl` and `extend_persistent_ttl` only. The contract's code is an entry too, which
the host extends together with the instance; it is counted with the instance here.

The model of the calls is the one without lifetimes, run with every access audited. Between two calls
ledgers close, and anyone may prolong live entries and restore archived ones.
-/

namespace StellarTip

open Foundation

/-- TTL threshold (ledgers) before extension is triggered: 15 days. -/
def TTL_THRESHOLD : ℕ := 17280 * 15

/-- TTL extension target (ledgers): 30 days. -/
def TTL_EXTEND : ℕ := 17280 * 30

/-- The ledger entries of the contract. -/
inductive LedgerEntry (Address Symbol : Type) where
  | contractInstance
  | data (key : DataKey Address Symbol)
  deriving DecidableEq

/-- The last ledger in which each entry is live. -/
abbrev Lifetimes (Address Symbol : Type) := LedgerEntry Address Symbol → ℕ

/-- What a call does to an entry: it needs it, brings it into being, or extends its lifetime. -/
inductive Access (Address Symbol : Type) where
  | touch (entry : LedgerEntry Address Symbol)
  | create (entry : LedgerEntry Address Symbol)
  | extend (entry : LedgerEntry Address Symbol)

def Access.entry {Address Symbol : Type} : Access Address Symbol → LedgerEntry Address Symbol
  | .touch entry | .create entry | .extend entry => entry

/-- The settings of the network that bear on lifetimes. The documentation of the host extends an
entry whose remaining lifetime is below the threshold and is silent on one that is exactly at it. -/
structure LedgerSettings where
  minPersistentEntryTtl : ℕ
  maxEntryTtl : ℕ
  extendsAtThreshold : Bool
  minPersistentEntryTtl_pos : 0 < minPersistentEntryTtl
  ttlExtend_lt : TTL_EXTEND < maxEntryTtl

namespace LedgerSettings

variable (settings : LedgerSettings)

/-- The lifetime of an entry that is created or restored at ledger `now`. -/
def birth (now : ℕ) : ℕ := now + settings.minPersistentEntryTtl - 1

/-- A remaining lifetime that an extension acts on. -/
def Due (remaining : ℕ) : Prop :=
  remaining < TTL_THRESHOLD ∨ settings.extendsAtThreshold = true ∧ remaining = TTL_THRESHOLD

instance (remaining : ℕ) : Decidable (settings.Due remaining) :=
  inferInstanceAs (Decidable (_ ∨ _))

/-- `extend_ttl(TTL_THRESHOLD, TTL_EXTEND)` at ledger `now`; a lifetime is never shortened. -/
def extended (now liveUntil : ℕ) : ℕ :=
  if settings.Due (liveUntil - now) then max liveUntil (now + TTL_EXTEND) else liveUntil

/-- What an access at ledger `now` makes of the lifetime of its entry; an archived entry has none. -/
def check {Address Symbol : Type} (now liveUntil : ℕ) : Access Address Symbol → Option ℕ
  | .touch _ => if now ≤ liveUntil then some liveUntil else none
  | .create _ => some (settings.birth now)
  | .extend _ => if now ≤ liveUntil then some (settings.extended now liveUntil) else none

variable {settings} {now liveUntil : ℕ}

theorem le_birth : now ≤ settings.birth now := by
  have := settings.minPersistentEntryTtl_pos
  unfold birth
  omega

theorem le_extended : liveUntil ≤ settings.extended now liveUntil := by
  unfold extended
  split <;> omega

/-- Whatever the lifetime was, after an extension at least the threshold is left. -/
theorem threshold_le_extended : now + TTL_THRESHOLD ≤ settings.extended now liveUntil := by
  have hconstants : TTL_THRESHOLD ≤ TTL_EXTEND := by decide
  unfold extended
  split
  · omega
  · rename_i hdue
    have habove : ¬liveUntil - now < TTL_THRESHOLD := fun hbelow ↦ hdue (.inl hbelow)
    have hpositive : 0 < TTL_THRESHOLD := by decide
    omega

/-- A second extension in the same ledger changes nothing. -/
@[simp]
theorem extended_extended :
    settings.extended now (settings.extended now liveUntil) = settings.extended now liveUntil := by
  have hconstants : TTL_THRESHOLD < TTL_EXTEND := by decide
  by_cases hdue : settings.Due (liveUntil - now)
  · have hnext : ¬settings.Due (max liveUntil (now + TTL_EXTEND) - now) := by
      unfold Due
      omega
    simp only [extended, if_pos hdue, if_neg hnext]
  · simp only [extended, if_neg hdue]

end LedgerSettings

variable {Address Symbol World : Type} [LinearOrder Address]

/-- The entries that are on the ledger; the instance is there from the deployment on. -/
def Storage.holds (storage : Storage Address Symbol) : LedgerEntry Address Symbol → Bool
  | .contractInstance => true
  | .data key => storage.persistentTier.has key

/-- Reading or removing under a key needs the entry, if there is one. -/
def Storage.touched (storage : Storage Address Symbol) (key : DataKey Address Symbol) :
    List (Access Address Symbol) :=
  if storage.persistentTier.has key = true then [.touch (.data key)] else []

/-- Writing under a key needs the entry, or creates it. -/
def Storage.written (storage : Storage Address Symbol) (key : DataKey Address Symbol) :
    Access Address Symbol :=
  if storage.persistentTier.has key = true then .touch (.data key) else .create (.data key)

/-- The accesses of one host function. The instance is loaded once, before the first of them. -/
def HostOp.accesses {β : Type} :
    HostOp Address Symbol β → Frame Address Symbol World → List (Access Address Symbol)
  | .persistentGet key, frame | .persistentHas key, frame | .persistentRemove key, frame =>
      frame.storage.touched key
  | .persistentSet key _, frame => [frame.storage.written key]
  | .extendInstanceTtl, _ => [.extend .contractInstance]
  | .extendPersistentTtl key, frame =>
      if frame.storage.persistentTier.has key = true then [.extend (.data key)] else []
  | _, _ => []

/-- Contract and token world as before, with the lifetimes and the number of the current ledger. -/
structure LedgerState (Address Symbol World : Type) [LinearOrder Address] where
  state : State Address Symbol World
  lifetimes : Lifetimes Address Symbol
  sequence : ℕ

/-- Why a submitted call has no effect. -/
inductive Interruption where
  | archived
  | failure (failure : Failure)
  deriving DecidableEq

variable [DecidableEq Symbol] {host : Host Address World}

/-- Audit one access at ledger `now`. -/
def LedgerSettings.audit (settings : LedgerSettings) (now : ℕ) :
    Lifetimes Address Symbol → Access Address Symbol → Option (Lifetimes Address Symbol) :=
  auditCells Access.entry (settings.check now)

namespace LedgerSettings

variable {settings : LedgerSettings} {now : ℕ} {lifetimes : Lifetimes Address Symbol}
  {entry : LedgerEntry Address Symbol}

theorem audit_touch : settings.audit now lifetimes (.touch entry) =
    if now ≤ lifetimes entry then some lifetimes else none := by
  change Option.map _ (if now ≤ lifetimes entry then _ else _) = _
  split
  · exact congrArg some (Function.update_eq_self entry lifetimes)
  · rfl

theorem audit_create : settings.audit now lifetimes (.create entry) =
    some (Function.update lifetimes entry (settings.birth now)) := rfl

theorem audit_extend : settings.audit now lifetimes (.extend entry) =
    if now ≤ lifetimes entry then
      some (Function.update lifetimes entry (settings.extended now (lifetimes entry)))
    else none := by
  change Option.map _ (if now ≤ lifetimes entry then _ else _) = _
  split <;> rfl

end LedgerSettings

/-- A submitted call: its program, run with every access audited. -/
def submit (settings : LedgerSettings) (env : Env host) (call : Call Address Symbol)
    (ledger : LedgerState Address Symbol World) :
    Except Interruption (Receipt Address Symbol × LedgerState Address Symbol World) :=
  match settings.audit ledger.sequence ledger.lifetimes (.touch .contractInstance) with
  | none => .error .archived
  | some lifetimes =>
      match ((call.script env).run (Program.audited (HostOp.perform host) HostOp.accesses
          (settings.audit ledger.sequence) .failure .archived)).run
          (⟨ledger.state.storage, ledger.state.world, [], []⟩, lifetimes) with
      | .ok (returned, final, lifetimes) =>
          .ok (⟨returned, final.events, final.transfers⟩,
            { ledger with state := ⟨final.storage, final.world⟩, lifetimes })
      | .error interruption => .error interruption

/-- The accesses of a call, in order. -/
def Call.trail (env : Env host) (call : Call Address Symbol) (state : State Address Symbol World) :
    List (Access Address Symbol) :=
  .touch .contractInstance ::
    (call.script env).trail (HostOp.perform host) HostOp.accesses ⟨state.storage, state.world, [], []⟩

variable {settings : LedgerSettings} {env : Env host} {call : Call Address Symbol}
  {ledger ledger' : LedgerState Address Symbol World} {receipt : Receipt Address Symbol}
  {failure : Failure}

/-- A submitted call is the call of the plain model together with the audit of its accesses. -/
theorem submit_eq :
    submit settings env call ledger =
      match (call.trail env ledger.state).foldlM (settings.audit ledger.sequence)
          ledger.lifetimes with
      | none => .error .archived
      | some lifetimes =>
          match invoke env call ledger.state with
          | .ok (receipt, state) => .ok (receipt, { ledger with state, lifetimes })
          | .error failure => .error (.failure failure) := by
  unfold submit Call.trail
  rw [List.foldlM_cons]
  cases settings.audit ledger.sequence ledger.lifetimes (.touch .contractInstance) with
  | none => rfl
  | some lifetimes =>
    dsimp only [Option.bind_eq_bind, Option.bind_some]
    rw [Program.run_audited, Call.run_script, invoke]
    cases List.foldlM (settings.audit ledger.sequence) lifetimes
        ((call.script env).trail (HostOp.perform host) HostOp.accesses
          ⟨ledger.state.storage, ledger.state.world, [], []⟩) with
    | none => rfl
    | some lifetimes' =>
      dsimp only
      cases (call.body env).run ⟨ledger.state.storage, ledger.state.world, [], []⟩ with
      | error failure => rfl
      | ok pair => rfl

theorem submit_eq_ok_iff :
    submit settings env call ledger = .ok (receipt, ledger') ↔
      invoke env call ledger.state = .ok (receipt, ledger'.state) ∧
        (call.trail env ledger.state).foldlM (settings.audit ledger.sequence) ledger.lifetimes =
          some ledger'.lifetimes ∧
        ledger'.sequence = ledger.sequence := by
  rw [submit_eq]
  obtain ⟨state', lifetimes', sequence'⟩ := ledger'
  cases (call.trail env ledger.state).foldlM (settings.audit ledger.sequence) ledger.lifetimes with
  | none => simp
  | some lifetimes =>
    cases invoke env call ledger.state with
    | error failure => simp
    | ok pair => simp [Prod.ext_iff, and_assoc, eq_comm]

/-- A call fails on the ledger only as it fails in the plain model. -/
theorem invoke_of_submit_eq_failure (h : submit settings env call ledger = .error (.failure failure)) :
    invoke env call ledger.state = .error failure := by
  rw [submit_eq] at h
  cases hfold : (call.trail env ledger.state).foldlM (settings.audit ledger.sequence)
      ledger.lifetimes with
  | none => simp [hfold] at h
  | some lifetimes =>
    cases hinvoke : invoke env call ledger.state with
    | error failure' => simpa [hfold, hinvoke] using h
    | ok pair => simp [hfold, hinvoke] at h

inductive LedgerLabel (host : Host Address World) (Symbol : Type) where
  | contract (label : Label host Symbol)
  | stopped (env : Env host) (call : Call Address Symbol)
  | closed
  | prolonged (entry : LedgerEntry Address Symbol)
  | restored (entry : LedgerEntry Address Symbol)

/-- What the contract sees of a step of the ledger. -/
def LedgerLabel.visible : LedgerLabel host Symbol → List (Label host Symbol)
  | .contract label => [label]
  | .stopped .. | .closed | .prolonged _ | .restored _ => []

inductive LedgerStep (settings : LedgerSettings) (host : Host Address World) :
    LedgerState Address Symbol World → LedgerLabel host Symbol →
      LedgerState Address Symbol World → Prop
  | accepted {env : Env host} {call : Call Address Symbol} {receipt : Receipt Address Symbol}
      {ledger ledger' : LedgerState Address Symbol World}
      (ok : submit settings env call ledger = .ok (receipt, ledger')) :
      LedgerStep settings host ledger (.contract (.accepted env call receipt)) ledger'
  | rejected {env : Env host} {call : Call Address Symbol} {failure : Failure}
      {ledger : LedgerState Address Symbol World}
      (error : submit settings env call ledger = .error (.failure failure)) :
      LedgerStep settings host ledger (.contract (.rejected env call failure)) ledger
  | stopped {env : Env host} {call : Call Address Symbol}
      {ledger : LedgerState Address Symbol World}
      (error : submit settings env call ledger = .error .archived) :
      LedgerStep settings host ledger (.stopped env call) ledger
  | outside {ledger : LedgerState Address Symbol World} {world : World}
      (moved : host.outside ledger.state.world world) :
      LedgerStep settings host ledger (.contract .outside)
        { ledger with state := { ledger.state with world } }
  | closed {ledger : LedgerState Address Symbol World} :
      LedgerStep settings host ledger .closed { ledger with sequence := ledger.sequence + 1 }
  | prolonged {ledger : LedgerState Address Symbol World} {entry : LedgerEntry Address Symbol}
      {liveUntil : ℕ}
      (held : ledger.state.storage.holds entry = true)
      (live : ledger.sequence ≤ ledger.lifetimes entry)
      (later : ledger.lifetimes entry ≤ liveUntil)
      (allowed : liveUntil < ledger.sequence + settings.maxEntryTtl) :
      LedgerStep settings host ledger (.prolonged entry)
        { ledger with lifetimes := Function.update ledger.lifetimes entry liveUntil }
  | restored {ledger : LedgerState Address Symbol World} {entry : LedgerEntry Address Symbol}
      (held : ledger.state.storage.holds entry = true)
      (archived : ledger.lifetimes entry < ledger.sequence) :
      LedgerStep settings host ledger (.restored entry)
        { ledger with
          lifetimes := Function.update ledger.lifetimes entry (settings.birth ledger.sequence) }

/-- A step of the ledger is a step of the plain model or invisible to it. -/
theorem LedgerStep.run_visible {label : LedgerLabel host Symbol}
    (h : LedgerStep settings host ledger label ledger') :
    Run (Step host) ledger.state label.visible ledger'.state := by
  cases h with
  | accepted ok => exact .single (.accepted (submit_eq_ok_iff.mp ok).1)
  | rejected error => exact .single (.rejected (invoke_of_submit_eq_failure error))
  | outside moved => exact .single (.outside moved)
  | stopped | closed | prolonged | restored => exact .nil

/-- Archival adds no behaviour: what the contract sees of a run of the ledger is a run of the plain
model. -/
theorem run_visible_of_run {labels : List (LedgerLabel host Symbol)}
    (run : Run (LedgerStep settings host) ledger labels ledger') :
    Run (Step host) ledger.state (labels.flatMap LedgerLabel.visible) ledger'.state :=
  run.simulate LedgerState.state fun _ _ _ hstep ↦ hstep.run_visible

end StellarTip
