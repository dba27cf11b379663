/-
This file models the making of payouts: the debitable wallet transactions are grouped by
their owner and their principal group, and every group whose owner can be paid becomes one
payout.

The groups live in an object keyed by a string that joins the two fields. A key holds a
separator, so it is never the index of an array, and the object keeps its keys in the order
in which they were first assigned. The owner and the principal group are not read back from
the key but from the first transaction of the group, which is right because the key
determines both (`groupId_injective`).
-/

import Mathlib.Algebra.Ring.Rat
import FieldService.Library.Grouping
import FieldService.Wallet.Entity

namespace FieldService

open Grouping

/-! ### Payable service providers -/

inductive IdentificationType where
  | newIC
  | oldIC
  | passport
  | brn
  deriving DecidableEq, Repr

structure Bank where
  bankName : Option String
  accountHolderName : Option String
  accountNumber : Option String
  idType : Option IdentificationType
  idNumber : Option String
  bankDisplayName : Option String
  swiftCode : Option String
  deriving DecidableEq, Repr

/-- A service provider with what a payment to it needs. -/
structure PayableServiceProvider extends ServiceProvider where
  bank : Bank
  vendorId : Option String
  deriving DecidableEq, Repr

/-- The transaction's owner is among the providers. -/
def WalletTransaction.isPayable (serviceProviders : List PayableServiceProvider)
    (transaction : WalletTransaction) : Bool :=
  serviceProviders.any fun provider => provider.id = transaction.ownerId

theorem isPayable_iff (serviceProviders : List PayableServiceProvider)
    (transaction : WalletTransaction) :
    transaction.isPayable serviceProviders = true ↔
      ∃ provider ∈ serviceProviders, provider.id = transaction.ownerId := by
  simp [WalletTransaction.isPayable]

/-! ### Groups of transactions -/

/-- The value of the `Tenant` enumeration. -/
def Tenant.value : Tenant → String
  | .daikin => "DMSS"
  | .acson => "AMSS"

theorem Tenant.value_injective {first second : Tenant} (same : first.value = second.value) :
    first = second := by
  cases first <;> cases second <;> simp [Tenant.value] at same ⊢

theorem Tenant.length_value (tenant : Tenant) : tenant.value.toList.length = 4 := by
  cases tenant <;> simp [Tenant.value]

/-- `WalletTransactionGroup`. -/
abbrev WalletTransactionGroup := List WalletTransaction

namespace WalletTransactionGroup

def getTotalAmount (group : WalletTransactionGroup) : Money :=
  group.foldl (fun total transaction => total + transaction.amount) 0

def getOwnerId (group : WalletTransactionGroup) : Option Uuid :=
  group.head?.map (·.ownerId)

def getPrincipalGroup (group : WalletTransactionGroup) : Option Tenant :=
  group.head?.map (·.principalGroup)

theorem getTotalAmount_eq (group : WalletTransactionGroup) :
    group.getTotalAmount = (group.map (·.amount)).sum :=
  Grouping.foldl_add_eq_sum _ group

end WalletTransactionGroup

/-! ### Payouts before they are saved -/

/-- A payout as the factory makes it. It gets its identifier when it is saved. -/
structure NewPayout where
  amount : Money
  bank : Bank
  owner : PayableServiceProvider
  principalGroup : Tenant
  walletTransactions : List WalletTransaction
  deriving DecidableEq, Repr

namespace PayoutFactory

/-- The key of a group. -/
def groupIdOf (ownerId : Uuid) (principalGroup : Tenant) : String :=
  ownerId.value ++ "|" ++ principalGroup.value

def groupId (transaction : WalletTransaction) : String :=
  groupIdOf transaction.ownerId transaction.principalGroup

def generateServiceProviderLookup (serviceProviders : List PayableServiceProvider) (id : Uuid) :
    Option PayableServiceProvider :=
  index (fun provider => provider.id) serviceProviders id

def generateWalletTransactionGroupLookup (transactions : List WalletTransaction) :
    List (String × WalletTransactionGroup) :=
  collect groupId transactions

/-- One round of the loop; `none` when it continues without a payout. A group is never
empty, so it has an owner and a principal group. -/
def payoutOf (serviceProviders : List PayableServiceProvider) (group : WalletTransactionGroup) :
    Option NewPayout := do
  let ownerId ← group.getOwnerId
  let owner ← generateServiceProviderLookup serviceProviders ownerId
  let principalGroup ← group.getPrincipalGroup
  return {
    amount := group.getTotalAmount
    bank := owner.bank
    owner := owner
    principalGroup := principalGroup
    walletTransactions := group }

/-- `PayoutFactory.create`. -/
def create (transactions : List WalletTransaction)
    (serviceProviders : List PayableServiceProvider) : List NewPayout :=
  (generateWalletTransactionGroupLookup transactions).filterMap fun group =>
    payoutOf serviceProviders group.2

/-! ### Keys -/

/-- The key of a group determines its owner and its principal group: the values of the
enumeration have the same length, so a key splits in one way only. -/
theorem groupId_injective {firstOwner secondOwner : Uuid} {firstGroup secondGroup : Tenant}
    (same : groupIdOf firstOwner firstGroup = groupIdOf secondOwner secondGroup) :
    firstOwner = secondOwner ∧ firstGroup = secondGroup := by
  have characters := congrArg String.toList same
  simp only [groupIdOf, String.toList_append, List.append_assoc] at characters
  have sameLength : ("|".toList ++ firstGroup.value.toList).length =
      ("|".toList ++ secondGroup.value.toList).length := by
    rw [List.length_append, List.length_append, Tenant.length_value, Tenant.length_value]
  obtain ⟨owners, groups⟩ := List.append_inj' characters sameLength
  refine ⟨?_, ?_⟩
  · cases firstOwner
    cases secondOwner
    simpa using String.toList_injective owners
  · exact Tenant.value_injective (String.toList_injective (List.append_cancel_left groups))

/-- Two transactions with one key have one owner and one principal group. -/
theorem groupId_eq_iff (first second : WalletTransaction) :
    groupId first = groupId second ↔
      first.ownerId = second.ownerId ∧ first.principalGroup = second.principalGroup := by
  constructor
  · exact groupId_injective
  · rintro ⟨owners, groups⟩
    rw [groupId, groupId, owners, groups]

/-! ### What one payout is made of -/

/-- The provider a lookup finds is one of the list and has the identifier. -/
theorem lookup_key {serviceProviders : List PayableServiceProvider} {id : Uuid}
    {provider : PayableServiceProvider}
    (found : generateServiceProviderLookup serviceProviders id = some provider) :
    provider ∈ serviceProviders ∧ provider.id = id :=
  index_key found

theorem lookup_isSome_iff (serviceProviders : List PayableServiceProvider)
    (transaction : WalletTransaction) :
    (generateServiceProviderLookup serviceProviders transaction.ownerId).isSome = true ↔
      transaction.isPayable serviceProviders = true := by
  rw [isPayable_iff]
  exact index_isSome_iff _ _ _

/-- What a payout made of a group of the lookup looks like. -/
structure MadeOf (serviceProviders : List PayableServiceProvider)
    (group : String × WalletTransactionGroup) (payout : NewPayout) : Prop where
  transactions : payout.walletTransactions = group.2
  amount : payout.amount = (group.2.map (·.amount)).sum
  owner : payout.owner ∈ serviceProviders
  bank : payout.bank = payout.owner.bank
  key : group.1 = groupIdOf payout.owner.id payout.principalGroup
  homogeneous : ∀ transaction ∈ group.2, transaction.ownerId = payout.owner.id ∧
    transaction.principalGroup = payout.principalGroup

/-- The transactions of a group all have its key. -/
theorem groupId_of_mem {transactions : List WalletTransaction}
    {group : String × WalletTransactionGroup}
    (member : group ∈ generateWalletTransactionGroupLookup transactions)
    {transaction : WalletTransaction} (inside : transaction ∈ group.2) :
    transaction ∈ transactions ∧ groupId transaction = group.1 := by
  rw [((mem_collect groupId transactions group).mp member).1] at inside
  simpa using inside

/-- The owner of a group is that of its first transaction. -/
theorem payoutOf_cons (serviceProviders : List PayableServiceProvider) (first : WalletTransaction)
    (rest : List WalletTransaction) :
    payoutOf serviceProviders (first :: rest) =
      (generateServiceProviderLookup serviceProviders first.ownerId).map fun owner =>
        { amount := WalletTransactionGroup.getTotalAmount (first :: rest)
          bank := owner.bank
          owner := owner
          principalGroup := first.principalGroup
          walletTransactions := first :: rest } := by
  rw [Option.map_eq_bind]
  rfl

theorem payoutOf_madeOf {transactions : List WalletTransaction}
    {serviceProviders : List PayableServiceProvider} {group : String × WalletTransactionGroup}
    (member : group ∈ generateWalletTransactionGroupLookup transactions) {payout : NewPayout}
    (made : payoutOf serviceProviders group.2 = some payout) :
    MadeOf serviceProviders group payout := by
  obtain ⟨key, transactionsOf⟩ := group
  cases transactionsOf with
  | nil => cases made
  | cons first rest =>
    rw [payoutOf_cons] at made
    obtain ⟨owner, found, rfl⟩ := Option.map_eq_some_iff.mp made
    obtain ⟨listed, isOwner⟩ := lookup_key found
    have firstKey := (groupId_of_mem member (List.mem_cons_self)).2
    exact
      { transactions := rfl
        amount := WalletTransactionGroup.getTotalAmount_eq _
        owner := listed
        bank := rfl
        key := by rw [← firstKey, groupId, isOwner]
        homogeneous := by
          intro transaction inside
          have sameKey := (groupId_of_mem member inside).2.trans firstKey.symm
          obtain ⟨owners, groups⟩ := (groupId_eq_iff transaction first).mp sameKey
          exact ⟨owners.trans isOwner.symm, groups⟩ }

/-- A group becomes a payout exactly if its transactions have a payable owner. -/
theorem payoutOf_isSome_iff {transactions : List WalletTransaction}
    (serviceProviders : List PayableServiceProvider) {group : String × WalletTransactionGroup}
    (member : group ∈ generateWalletTransactionGroupLookup transactions)
    {transaction : WalletTransaction} (inside : transaction ∈ group.2) :
    (payoutOf serviceProviders group.2).isSome = true ↔
      transaction.isPayable serviceProviders = true := by
  obtain ⟨key, transactionsOf⟩ := group
  cases transactionsOf with
  | nil => cases inside
  | cons first rest =>
    have firstKey := (groupId_of_mem member (List.mem_cons_self)).2
    have sameOwner : transaction.ownerId = first.ownerId :=
      ((groupId_eq_iff transaction first).mp
        ((groupId_of_mem member inside).2.trans firstKey.symm)).1
    rw [payoutOf_cons, Option.isSome_map, lookup_isSome_iff, isPayable_iff, isPayable_iff,
      sameOwner]

/-! ### The payouts of a list -/

theorem mem_create {transactions : List WalletTransaction}
    {serviceProviders : List PayableServiceProvider} {payout : NewPayout}
    (member : payout ∈ create transactions serviceProviders) :
    ∃ group ∈ generateWalletTransactionGroupLookup transactions,
      MadeOf serviceProviders group payout := by
  obtain ⟨group, grouped, made⟩ := List.mem_filterMap.mp member
  exact ⟨group, grouped, payoutOf_madeOf grouped made⟩

/-- No two payouts have the same owner and principal group. -/
theorem create_distinct (transactions : List WalletTransaction)
    (serviceProviders : List PayableServiceProvider) :
    (create transactions serviceProviders).Pairwise fun first second =>
      ¬(first.owner.id = second.owner.id ∧ first.principalGroup = second.principalGroup) := by
  have keys := List.pairwise_map.mp (collect_keys_nodup groupId transactions)
  rw [create, List.pairwise_filterMap]
  refine List.Pairwise.imp_of_mem ?_ keys
  rintro first second firstMember secondMember different payout made other otherMade
    ⟨owners, groups⟩
  refine different ?_
  rw [(payoutOf_madeOf firstMember made).key, (payoutOf_madeOf secondMember otherMade).key, owners,
    groups]

/-- A group ends up in a payout as a whole, or not at all. -/
theorem payoutOf_transactions {transactions : List WalletTransaction}
    (serviceProviders : List PayableServiceProvider) {group : String × WalletTransactionGroup}
    (member : group ∈ generateWalletTransactionGroupLookup transactions) :
    (payoutOf serviceProviders group.2).toList.flatMap (·.walletTransactions) =
      group.2.filter (·.isPayable serviceProviders) := by
  have payableIff : ∀ transaction ∈ group.2, (payoutOf serviceProviders group.2).isSome = true ↔
      transaction.isPayable serviceProviders = true := fun _ inside =>
    payoutOf_isSome_iff serviceProviders member inside
  cases made : payoutOf serviceProviders group.2 with
  | none =>
    refine (List.filter_eq_nil_iff.mpr fun transaction inside payable => ?_).symm
    have isSome := (payableIff transaction inside).mpr payable
    rw [made] at isSome
    cases isSome
  | some payout =>
    rw [Option.toList_some, List.flatMap_singleton, (payoutOf_madeOf member made).transactions]
    refine (List.filter_eq_self.mpr fun transaction inside => ?_).symm
    exact (payableIff transaction inside).mp (by rw [made]; rfl)

/-- The transactions of the payouts are those whose owner can be paid, each as often as it was
given. -/
theorem create_perm (transactions : List WalletTransaction)
    (serviceProviders : List PayableServiceProvider) :
    ((create transactions serviceProviders).flatMap (·.walletTransactions)).Perm
      (transactions.filter (·.isPayable serviceProviders)) := by
  have inGroups : (create transactions serviceProviders).flatMap (·.walletTransactions) =
      ((generateWalletTransactionGroupLookup transactions).flatMap Prod.snd).filter
        (·.isPayable serviceProviders) := by
    rw [create, List.filterMap_eq_flatMap_toList, List.flatMap_assoc, List.filter_flatMap]
    exact List.flatMap_congr fun group member => payoutOf_transactions serviceProviders member
  rw [inGroups]
  exact (flatMap_collect_perm groupId transactions).filter _

/-- The payouts are a partition of the transactions that can be paid. -/
structure Partitions (transactions : List WalletTransaction)
    (serviceProviders : List PayableServiceProvider) (payouts : List NewPayout) : Prop where
  /-- A transaction whose owner is among the providers is in exactly one payout. -/
  once : ∀ transaction ∈ transactions,
    (∃ provider ∈ serviceProviders, provider.id = transaction.ownerId) →
      ∃! position : Nat, ∃ payout : NewPayout, payouts[position]? = some payout ∧
        transaction ∈ payout.walletTransactions
  /-- Each as often as it was given, so nothing is counted twice. -/
  counted : (payouts.flatMap (·.walletTransactions)).Perm
    (transactions.filter (·.isPayable serviceProviders))
  homogeneous : ∀ payout ∈ payouts, ∀ transaction ∈ payout.walletTransactions,
    transaction.ownerId = payout.owner.id ∧ transaction.principalGroup = payout.principalGroup
  distinct : payouts.Pairwise fun first second =>
    ¬(first.owner.id = second.owner.id ∧ first.principalGroup = second.principalGroup)
  amount : ∀ payout ∈ payouts, payout.amount = (payout.walletTransactions.map (·.amount)).sum
  /-- The transactions left out are exactly those whose owner is not among the providers. -/
  leftOut : ∀ transaction ∈ transactions,
    (∀ payout ∈ payouts, transaction ∉ payout.walletTransactions) ↔
      ¬∃ provider ∈ serviceProviders, provider.id = transaction.ownerId

theorem mem_some_payout_iff (transactions : List WalletTransaction)
    (serviceProviders : List PayableServiceProvider) {transaction : WalletTransaction}
    (member : transaction ∈ transactions) :
    (∃ payout ∈ create transactions serviceProviders, transaction ∈ payout.walletTransactions) ↔
      transaction.isPayable serviceProviders = true := by
  rw [← List.mem_flatMap, (create_perm transactions serviceProviders).mem_iff, List.mem_filter]
  exact and_iff_right member

/-- A transaction is in no two payouts. -/
theorem position_unique {payouts : List NewPayout} {transaction : WalletTransaction}
    (homogeneous : ∀ payout ∈ payouts, ∀ transaction ∈ payout.walletTransactions,
      transaction.ownerId = payout.owner.id ∧ transaction.principalGroup = payout.principalGroup)
    (distinct : payouts.Pairwise fun first second =>
      ¬(first.owner.id = second.owner.id ∧ first.principalGroup = second.principalGroup))
    {first second : Nat}
    (inFirst : ∃ payout : NewPayout, payouts[first]? = some payout ∧
      transaction ∈ payout.walletTransactions)
    (inSecond : ∃ payout : NewPayout, payouts[second]? = some payout ∧
      transaction ∈ payout.walletTransactions) :
    first = second := by
  obtain ⟨payout, atFirst, inside⟩ := inFirst
  obtain ⟨other, atSecond, alsoInside⟩ := inSecond
  obtain ⟨firstBound, rfl⟩ := List.getElem?_eq_some_iff.mp atFirst
  obtain ⟨secondBound, rfl⟩ := List.getElem?_eq_some_iff.mp atSecond
  have firstAgrees := homogeneous _ (List.getElem_mem firstBound) transaction inside
  have secondAgrees := homogeneous _ (List.getElem_mem secondBound) transaction alsoInside
  have apart := List.pairwise_iff_getElem.mp distinct
  rcases Nat.lt_trichotomy first second with before | same | after
  · exact absurd ⟨firstAgrees.1.symm.trans secondAgrees.1, firstAgrees.2.symm.trans secondAgrees.2⟩
      (apart first second firstBound secondBound before)
  · exact same
  · exact absurd ⟨secondAgrees.1.symm.trans firstAgrees.1, secondAgrees.2.symm.trans firstAgrees.2⟩
      (apart second first secondBound firstBound after)

/-- The factory partitions the transactions it can pay into payouts, one for every owner and
principal group, and leaves out exactly those it cannot pay. -/
theorem create_partitions (transactions : List WalletTransaction)
    (serviceProviders : List PayableServiceProvider) :
    Partitions transactions serviceProviders (create transactions serviceProviders) := by
  have homogeneous : ∀ payout ∈ create transactions serviceProviders,
      ∀ transaction ∈ payout.walletTransactions, transaction.ownerId = payout.owner.id ∧
        transaction.principalGroup = payout.principalGroup := by
    intro payout member transaction inside
    obtain ⟨group, -, made⟩ := mem_create member
    exact made.homogeneous transaction (made.transactions ▸ inside)
  have distinct := create_distinct transactions serviceProviders
  refine
    { once := fun transaction member payable => ?_
      counted := create_perm transactions serviceProviders
      homogeneous := homogeneous
      distinct := distinct
      amount := fun payout member => ?_
      leftOut := fun transaction member => ?_ }
  · obtain ⟨payout, created, inside⟩ :=
      (mem_some_payout_iff transactions serviceProviders member).mpr
        ((isPayable_iff serviceProviders transaction).mpr payable)
    obtain ⟨position, stands⟩ := List.mem_iff_getElem?.mp created
    exact ⟨position, ⟨payout, stands, inside⟩,
      fun other inOther => position_unique homogeneous distinct inOther ⟨payout, stands, inside⟩⟩
  · obtain ⟨group, -, made⟩ := mem_create member
    rw [made.amount, made.transactions]
  · rw [← isPayable_iff, ← mem_some_payout_iff transactions serviceProviders member]
    simp only [not_exists, not_and]

end PayoutFactory

end FieldService
