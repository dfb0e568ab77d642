import Kasplex.Primitives
import Kasplex.Ledger
import Mathlib.Data.FinEnum

/-!
# Environment, accounts and the journal of one transaction

The journal overlays a database with the accounts the transaction has loaded.
A database read can fail, so loading an account that is not in the overlay is
fallible; everything already loaded is read without touching the database.
-/

namespace EvmState

open Primitives MachineArith

inductive SpecId where
  | frontier | homestead | tangerine | spuriousDragon | byzantium | petersburg
  | istanbul | berlin | london | merge | shanghai | cancun | prague | osaka
  deriving DecidableEq, Repr

structure BlockEnv where
  number : U256
  beneficiary : Address
  timestamp : U256
  gasLimit : U64
  basefee : U64
  difficulty : U256
  prevrandao : Option B256
  deriving DecidableEq, Repr

structure CfgEnv where
  chainId : U64
  spec : SpecId
  disableNonceCheck : Bool
  deriving DecidableEq, Repr

structure EvmEnv where
  cfgEnv : CfgEnv
  blockEnv : BlockEnv
  deriving DecidableEq, Repr

structure TxEnv where
  txType : TxType
  caller : Address
  gasLimit : U64
  gasPrice : U128
  kind : TxKind
  value : U256
  data : Bytes
  nonce : U64
  chainId : Option U64
  accessList : List (Address × List B256)
  gasPriorityFee : Option U128
  blobHashes : List B256
  maxFeePerBlobGas : U128
  authorizationList : List Bytes
  deriving DecidableEq, Repr

/-- The transaction environment of a recovered transaction. -/
def TxEnv.fromRecoveredTx (r : Recovered) : TxEnv where
  txType := r.tx.fees.txType
  caller := r.signer
  gasLimit := r.tx.gasLimit
  gasPrice := r.tx.fees.maxFeePerGas
  kind := r.tx.kind
  value := r.tx.value
  data := r.tx.input
  nonce := r.tx.nonce
  chainId := r.tx.chainId
  accessList := r.tx.accessList
  gasPriorityFee := r.tx.fees.maxPriorityFeePerGas
  blobHashes := r.tx.fees.blobHashes
  maxFeePerBlobGas := r.tx.fees.maxFeePerBlobGas
  authorizationList := r.tx.authorizationList

/-- The types with one price. -/
def TxEnv.isFlat (tx : TxEnv) : Bool := tx.txType = .legacy || tx.txType = .eip2930

/-- The fee cap, or what the base fee and the priority fee add up to if less. A
type with one price pays that. -/
def TxEnv.effectiveGasPrice (tx : TxEnv) (baseFee : U128) : U128 :=
  if tx.isFlat then tx.gasPrice
  else
    match tx.gasPriorityFee with
    | none => tx.gasPrice
    | some priority =>
      let price := saturatingAdd baseFee priority
      if tx.gasPrice ≤ price then tx.gasPrice else price

inductive InvalidTransaction where
  | overflowPaymentInTransaction
  | callerGasLimitMoreThanBlock
  | gasPriceLessThanBasefee
  | rejectCallerWithCode
  | nonceTooHigh
  | nonceTooLow
  | other (message : String)
  deriving DecidableEq, Repr

abbrev DbError := String

inductive EvmError where
  | transaction (err : InvalidTransaction)
  | database (err : DbError)
  | custom (message : String)
  deriving DecidableEq, Repr

/-- Most the caller pays: `gas_limit * effective_gas_price + value`, with the
product checked in 128 bits and the sum in 256. -/
def TxEnv.effectiveBalanceSpending (tx : TxEnv) (baseFee : U128) :
    Except InvalidTransaction U256 :=
  match checkedMul (tx.gasLimit.setWidth 128) (tx.effectiveGasPrice baseFee) with
  | none => .error .overflowPaymentInTransaction
  | some gasCost =>
    match checkedAdd (gasCost.setWidth 256) tx.value with
    | none => .error .overflowPaymentInTransaction
    | some spending => .ok spending

/-- The gas meter of a finished frame. `refunded` is signed. -/
structure Gas where
  limit : U64
  remaining : U64
  refunded : BitVec 64
  deriving DecidableEq, Repr

def Gas.spent (g : Gas) : U64 := g.limit - g.remaining

/-- The record a finished transaction hands to the fee phases. -/
structure Gas.WellFormed (g : Gas) (gasLimit : U64) : Prop where
  limit : g.limit = gasLimit
  balanced : g.spent.toNat + g.remaining.toNat = g.limit.toNat
  refund_nonneg : 0 ≤ g.refunded.toInt
  refund_le : g.refunded.toInt ≤ g.spent.toNat

structure Account where
  balance : U256
  nonce : U64
  code : Bytes
  storage : U256 → U256

instance : Inhabited Account := ⟨⟨0, 0, [], fun _ => 0⟩⟩

/-- Committed accounts; reading an address with a `fault` fails. -/
structure Database where
  account : Address → Account
  fault : Address → Option DbError
  stateClearFlag : Bool

abbrev State := Address → Option Account

def Database.commit (db : Database) (changes : State) : Database :=
  { db with account := fun a => (changes a).getD (db.account a) }

def Database.setStateClearFlag (db : Database) (flag : Bool) : Database :=
  { db with stateClearFlag := flag }

structure Journal where
  database : Database
  state : State

namespace Journal

def new (db : Database) : Journal := ⟨db, fun _ => none⟩

/-- The current value of an account, loaded or not. -/
def account (j : Journal) (a : Address) : Account :=
  (j.state a).getD (j.database.account a)

def setAccount (j : Journal) (a : Address) (value : Account) : Journal :=
  { j with state := Function.update j.state a (some value) }

def loadAccount (j : Journal) (a : Address) : Except EvmError Journal :=
  match j.state a with
  | some _ => .ok j
  | none =>
    match j.database.fault a with
    | some err => .error (.database err)
    | none => .ok (j.setAccount a (j.database.account a))

/-- Credit an account; a credit that does not fit is dropped. -/
def balanceIncr (j : Journal) (a : Address) (amount : U256) : Except EvmError Journal := do
  let j ← j.loadAccount a
  match checkedAdd (j.account a).balance amount with
  | none => pure j
  | some balance => pure (j.setAccount a { j.account a with balance })

def balances (j : Journal) (a : Address) : Nat := (j.account a).balance.toNat

@[simp] theorem setAccount_account (j : Journal) (a : Address) (value : Account) :
    (j.setAccount a value).account = Function.update j.account a value := by
  funext b
  by_cases h : b = a
  · subst h
    simp [setAccount, account]
  · simp [setAccount, account, h]

theorem setAccount_balances (j : Journal) (a : Address) (value : Account) :
    (j.setAccount a value).balances = Function.update j.balances a value.balance.toNat := by
  funext b
  by_cases h : b = a
  · subst h
    simp [balances]
  · simp [balances, h]

/-- Loading changes no account. -/
theorem loadAccount_account {j j' : Journal} {a : Address} (h : j.loadAccount a = .ok j') :
    j'.account = j.account := by
  unfold loadAccount at h
  split at h
  · cases h
    rfl
  · rename_i hs
    split at h
    · cases h
    · cases h
      rw [setAccount_account]
      funext b
      by_cases hb : b = a
      · subst hb
        simp [account, hs]
      · simp [hb]

theorem loadAccount_balances {j j' : Journal} {a : Address} (h : j.loadAccount a = .ok j') :
    j'.balances = j.balances := by
  unfold balances
  rw [loadAccount_account h]

/-- A credit that fits changes exactly the one balance. -/
theorem balanceIncr_balances {j j' : Journal} {a : Address} {amount : U256}
    (h : j.balanceIncr a amount = .ok j')
    (fits : j.balances a + amount.toNat < 2 ^ 256) :
    j'.balances = Ledger.credit j.balances a amount.toNat := by
  unfold balanceIncr at h
  cases hl : j.loadAccount a with
  | error err => simp [hl, bind, Except.bind] at h
  | ok k =>
    have hb := loadAccount_balances hl
    have hfit : (k.account a).balance.toNat + amount.toNat < 2 ^ 256 := by
      change k.balances a + amount.toNat < 2 ^ 256
      rw [hb]
      exact fits
    simp only [hl, bind, Except.bind, checkedAdd, if_pos hfit, pure, Except.pure] at h
    cases h
    rw [setAccount_balances, toNat_add_of_lt hfit]
    change Function.update k.balances a (k.balances a + amount.toNat) = _
    rw [hb]
    rfl

end Journal

theorem effectiveGasPrice_of_none {tx : TxEnv} (baseFee : U128) (h : tx.gasPriorityFee = none) :
    tx.effectiveGasPrice baseFee = tx.gasPrice := by
  simp [TxEnv.effectiveGasPrice, h]

theorem effectiveGasPrice_of_flat {tx : TxEnv} (baseFee : U128) (flat : tx.isFlat = true) :
    tx.effectiveGasPrice baseFee = tx.gasPrice :=
  if_pos flat

theorem effectiveGasPrice_of_some {tx : TxEnv} (baseFee : U128) {priority : U128}
    (dynamic : tx.isFlat = false) (h : tx.gasPriorityFee = some priority) :
    (tx.effectiveGasPrice baseFee).toNat =
      min tx.gasPrice.toNat (min (baseFee.toNat + priority.toNat) (2 ^ 128 - 1)) := by
  unfold TxEnv.effectiveGasPrice
  rw [if_neg (Bool.eq_false_iff.mp dynamic), h]
  change (if tx.gasPrice ≤ saturatingAdd baseFee priority then _ else _ : U128).toNat = _
  rw [toNat_ite_le, toNat_saturatingAdd]

/-- Only types with two prices have a priority fee. -/
theorem fromRecoveredTx_isFlat {r : Recovered} {priority : U128}
    (h : r.tx.fees.maxPriorityFeePerGas = some priority) :
    (TxEnv.fromRecoveredTx r).isFlat = false := by
  unfold TxEnv.isFlat TxEnv.fromRecoveredTx
  cases hfees : r.tx.fees with
  | legacy gasPrice => simp [hfees, TxFees.maxPriorityFeePerGas] at h
  | eip2930 gasPrice => simp [hfees, TxFees.maxPriorityFeePerGas] at h
  | _ => rfl

/-- A payment that passes the overflow checks is the exact sum. -/
theorem effectiveBalanceSpending_eq_ok {tx : TxEnv} {baseFee : U128} {spending : U256}
    (h : tx.effectiveBalanceSpending baseFee = .ok spending) :
    tx.gasLimit.toNat * (tx.effectiveGasPrice baseFee).toNat < 2 ^ 128 ∧
      spending.toNat =
        tx.gasLimit.toNat * (tx.effectiveGasPrice baseFee).toNat + tx.value.toNat := by
  unfold TxEnv.effectiveBalanceSpending at h
  split at h
  · cases h
  · rename_i gasCost hmul
    split at h
    · cases h
    · rename_i total hadd
      cases h
      obtain ⟨hlt, heq⟩ := checkedMul_eq_some hmul
      obtain ⟨_, hsum⟩ := checkedAdd_eq_some hadd
      simp only [toNat_setWidth_of_le (show 64 ≤ 128 by decide),
        toNat_setWidth_of_le (show 128 ≤ 256 by decide)] at hlt heq hsum
      exact ⟨hlt, by rw [hsum, heq]⟩

theorem Gas.WellFormed.refunded_toNat {g : Gas} {gasLimit : U64} (wf : g.WellFormed gasLimit) :
    g.refunded.toNat ≤ g.spent.toNat := by
  have h0 := wf.refund_nonneg
  have h1 := wf.refund_le
  have he := BitVec.toInt_eq_toNat_cond g.refunded
  split at he
  · omega
  · have := g.refunded.isLt
    omega

end EvmState
