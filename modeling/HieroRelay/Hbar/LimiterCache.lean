import HieroRelay.Lib.Prog
import HieroRelay.Lib.TtlStore

/-! What the HBAR limiter shares: the entries that its repositories keep in the cache,
the clock and the time of the next reset, and the atomic operations on them. -/

namespace HieroRelay.Hbar

open HieroRelay.Lib

inductive SubscriptionTier where
  | BASIC
  | EXTENDED
  | PRIVILEGED
  | OPERATOR
  deriving Repr, DecidableEq

/-- An identifier from the configuration, or the one that `uuidV4` generated at its
n-th call: no identifier is generated twice. -/
inductive PlanId where
  | configured (id : String)
  | generated (number : Nat)
  deriving Repr, DecidableEq

structure IHbarSpendingPlan where
  id : PlanId
  subscriptionTier : SubscriptionTier
  createdAt : Nat
  active : Bool
  deriving Repr, DecidableEq

structure IDetailedHbarSpendingPlan extends IHbarSpendingPlan where
  amountSpent : Nat
  deriving Repr, DecidableEq

structure IEvmAddressHbarSpendingPlan where
  evmAddress : String
  planId : PlanId
  deriving Repr, DecidableEq

structure IIPAddressHbarSpendingPlan where
  ipAddress : String
  planId : PlanId
  deriving Repr, DecidableEq

/-- The entries by the kinds of their keys: `hbarSpendingPlan:<id>`, the same with
`:amountSpent`, `evmAddressHbarSpendingPlan:<key>` and `ipAddressHbarSpendingPlan:<ip>`. -/
structure LimiterState where
  now : Nat
  reset : Nat
  generated : Nat
  plans : TtlStore PlanId IHbarSpendingPlan
  amountSpent : TtlStore PlanId Nat
  evmAddresses : TtlStore String IEvmAddressHbarSpendingPlan
  ipAddresses : TtlStore String IIPAddressHbarSpendingPlan

inductive LimiterOp where
  | getPlan (id : PlanId)
  | setPlan (id : PlanId) (plan : IHbarSpendingPlan) (ttl : Nat)
  | getAmountSpent (id : PlanId)
  | getAmountSpentTtl (id : PlanId)
  | setAmountSpent (id : PlanId) (amount : Nat) (ttl : Nat)
  | incrAmountSpent (id : PlanId) (amount : Nat)
  | amountSpentKeys
  | deleteAmountSpent (id : PlanId)
  | getEvmAddress (key : String)
  | setEvmAddress (key : String) (link : IEvmAddressHbarSpendingPlan) (ttl : Nat)
  | getIpAddress (ipAddress : String)
  | uuidV4
  | dateNow
  | getReset
  | setReset (reset : Nat)
  deriving Repr, DecidableEq

abbrev LimiterOp.Answer : LimiterOp → Type
  | .getPlan _ => Option IHbarSpendingPlan
  | .getAmountSpent _ => Option Nat
  | .getAmountSpentTtl _ => Nat
  | .incrAmountSpent _ _ => Nat
  | .amountSpentKeys => List PlanId
  | .getEvmAddress _ => Option IEvmAddressHbarSpendingPlan
  | .getIpAddress _ => Option IIPAddressHbarSpendingPlan
  | .uuidV4 => PlanId
  | .dateNow => Nat
  | .getReset => Nat
  | _ => Unit

namespace LimiterState

/-- The cache before any plan. -/
def initial (now reset : Nat) : LimiterState where
  now
  reset
  generated := 0
  plans := .empty
  amountSpent := .empty
  evmAddresses := .empty
  ipAddresses := .empty

/-- The counter after `INCRBY`, which keeps the time to live of an entry. -/
def incrBy (state : LimiterState) (id : PlanId) (amount : Nat) : Nat :=
  (state.amountSpent.get state.now id).getD 0 + amount

def perform : (op : LimiterOp) → LimiterState → op.Answer × LimiterState
  | .getPlan id, state => (state.plans.get state.now id, state)
  | .setPlan id plan ttl, state => ((), { state with plans := state.plans.set state.now id plan ttl })
  | .getAmountSpent id, state => (state.amountSpent.get state.now id, state)
  | .getAmountSpentTtl id, state => (state.amountSpent.remainingTtl state.now id, state)
  | .setAmountSpent id amount ttl, state =>
      ((), { state with amountSpent := state.amountSpent.set state.now id amount ttl })
  | .incrAmountSpent id amount, state =>
      (state.incrBy id amount, { state with
        amountSpent := state.amountSpent.set state.now id (state.incrBy id amount)
          (state.amountSpent.remainingTtl state.now id) })
  | .amountSpentKeys, state => (state.amountSpent.keys, state)
  | .deleteAmountSpent id, state => ((), { state with amountSpent := state.amountSpent.delete id })
  | .getEvmAddress key, state => (state.evmAddresses.get state.now key, state)
  | .setEvmAddress key link ttl, state =>
      ((), { state with evmAddresses := state.evmAddresses.set state.now key link ttl })
  | .getIpAddress ipAddress, state => (state.ipAddresses.get state.now ipAddress, state)
  | .uuidV4, state => (.generated state.generated, { state with generated := state.generated + 1 })
  | .dateNow, state => (state.now, state)
  | .getReset, state => (state.reset, state)
  | .setReset reset, state => ((), { state with reset })

end LimiterState

/-- A program of the limiter. -/
abbrev Program (Result : Type) := Prog LimiterOp LimiterOp.Answer Result

def ask (op : LimiterOp) : Program op.Answer := Prog.op op

end HieroRelay.Hbar
