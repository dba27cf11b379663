/-
This file settles which operations keep the accounts of providers coherent.

Coherent accounts are those where every provider who is not deleted has a login made of its names
and its type, is a dealer exactly if it is the profile of one and a worker exactly if it belongs to
one, and shares no name with another. An operation can break this for the provider it writes, for
the profile its dealer had before, and for the provider with the dealer's identifier, since it is
that one's login which is updated. So an operation keeps the accounts coherent exactly if these are
whole after it, and for each operation that comes to a condition on what it is given and on what was
there before.
-/

import FieldService.Accounts.Outcomes
import FieldService.Library.Execution

namespace FieldService.Accounts

open Auth Commands Execution

/-- What a login is made of has stayed as it was. -/
def ServiceProvider.KeepsNames (next stored : ServiceProvider) : Prop :=
  next.phoneNumber = stored.phoneNumber ∧ next.emailAddress = stored.emailAddress ∧
    next.type = stored.type

/-- A login is made of the names and the type of a provider. -/
def UserLogin.IsOf (settings : AccountSettings) (login : UserLogin) (provider : ServiceProvider) :
    Prop :=
  login.username = provider.phoneNumber ∧
    login.secondaryUsername = some (settings.toLowerCase provider.emailAddress) ∧
    login.groups = [provider.type]

namespace Store

/-! ### Coherence -/

section Coherence

variable (settings : AccountSettings) (store : Store)

/-- A dealer that is not deleted has the profile. -/
def IsProfile (id : Uuid) : Prop :=
  ∃ dealer ∈ store.dealers.rows, dealer.deletedAt = none ∧ dealer.profileId = some id

/-- The logins of a provider that are not deleted. -/
def activeLogins (id : Uuid) : List UserLogin :=
  store.logins.rows.filter fun login =>
    login.userType = .provider ∧ login.userId = id ∧ login.deletion = none

/-- No two providers who are not deleted share a phone number or an e-mail address. -/
def Distinct : Prop :=
  ∀ first ∈ store.providers.rows, ∀ second ∈ store.providers.rows,
    first.deletedAt = none → second.deletedAt = none →
      first.phoneNumber = second.phoneNumber ∨ first.emailAddress = second.emailAddress →
        first = second

structure Coherent : Prop where
  login : ∀ provider ∈ store.providers.rows, provider.deletedAt = none →
    ∃ login, store.activeLogins provider.id = [login] ∧ login.IsOf settings provider
  dealer : ∀ provider ∈ store.providers.rows, provider.deletedAt = none →
    (provider.type = .dealer ↔ store.IsProfile provider.id)
  worker : ∀ provider ∈ store.providers.rows, provider.deletedAt = none →
    (provider.type = .worker ↔ provider.dealerId ≠ none)
  distinct : store.Distinct

end Coherence

/-! ### Conditions -/

section Conditions

variable (settings : AccountSettings) (drawn : Drawn) (store : Store)

def IsActive (id : Uuid) : Prop :=
  ∃ provider, store.providers.find id = some provider ∧ provider.deletedAt = none

/-- A provider that is written is new and its login is created, or has been deleted before. -/
def CreatesWhole (dto : ServiceProviderDto) (reach : Nat) : Prop :=
  let id := dto.id.getD drawn.id
  store.Writes (ServiceProviderService.user settings dto) none reach →
    (store.providers.find id = none ∧
      store.Creates (ServiceProviderService.login settings dto id) (reach - 3)) ∨
    ∃ stored, store.providers.find id = some stored ∧ stored.deletedAt ≠ none

/-- A provider that is written is there, and if it is not deleted it is no dealer's profile, it is
told its dealer if it has one, and its login is updated or is not to change. -/
def ReplacesWhole (dto : ServiceProviderDto) (reach : Nat) : Prop :=
  let id := dto.id.getD drawn.id
  let user := ServiceProviderService.user settings dto
  store.Writes user dto.id reach →
    ∃ stored, store.providers.find id = some stored ∧
      (stored.deletedAt = none → ¬store.IsProfile id ∧
        (dto.dealer = .undefined → stored.dealerId = none) ∧
        (store.Updates (ServiceProviderService.login settings dto id) (reach - 3) ∨
          (user.over id (some stored)).KeepsNames stored))

/-- A profile that is inserted is given no dealer, its login is created, and its dealer is a new
one, or one whose profile has been deleted. -/
def CreatesWholeDealer (dto : DealerDto) (reach : Nat) : Prop :=
  let id := dto.profile.id.getD drawn.id
  store.Writes (DealerService.insertedProfile settings drawn dto) none reach →
    store.providers.find id = none →
      dto.profile.dealer.isGiven = false ∧
      store.Creates (DealerService.login settings dto id) (reach - 4) ∧
      ∀ dealer, store.dealers.find id = some dealer → dealer.deletedAt = none ∧
        ∀ profileId, dealer.profileId = some profileId → ¬store.IsActive profileId

/-- The dealer can be saved with the profile. -/
def SavesDealer (id : Uuid) (profile : ProfileDto) (profileId : Uuid) : Prop :=
  store.isTaken profileId id = false ∧
    (store.putDealer (store.dealerWith id profile.id)).hasDealer profile.dealer = true

/-- The profile the dealer has had is not active, unless it is the one that is written. -/
def LeavesNobody (id profileId : Uuid) : Prop :=
  ∀ dealer former, store.dealers.find id = some dealer → dealer.deletedAt = none →
    dealer.profileId = some former → former ≠ profileId → ¬store.IsActive former

/-- What the profile of a dealer has become is right for the dealer and for its login, which is
updated or not. -/
structure FitsDealer (id : Uuid) (next stored : ServiceProvider) (updated : Prop) : Prop where
  dealer : next.type = .dealer ↔
    ∀ dealer, store.dealers.find id = some dealer → dealer.deletedAt = none
  worker : next.type = .worker ↔ next.dealerId ≠ none
  login : (updated → next.type = .dealer) ∧ (¬updated → next.KeepsNames stored)

/-- A dealer that is saved leaves nobody without one, its profile fits, and no login of another
provider is updated in its place. -/
def ReplacesWholeDealer (dto : DealerDto) (reach : Nat) : Prop :=
  let id := dto.id.getD drawn.id
  let profile := dto.profile.normalize settings.toLowerCase
  let updated := store.Updates (DealerService.login settings dto id) (reach - 3)
  2 < reach → store.Admits profile.phoneNumber profile.emailAddress profile.id →
    (profile.id = none → store.IsActive id → ¬updated) ∧
    ∀ profileId stored, profile.id = some profileId →
      store.providers.find profileId = some stored → store.SavesDealer id profile profileId →
        store.LeavesNobody id profileId ∧
        (stored.deletedAt = none → store.FitsDealer id (profile.over profileId (some stored)) stored
          (profileId = id ∧ updated)) ∧
        (profileId ≠ id → store.IsActive id → ¬updated)

/-- The profile of a dealer that is deleted is deleted with it. -/
def DeletesWholeDealer (id : Uuid) (reach : Nat) : Prop :=
  1 < reach → ∀ dealer profileId, store.dealers.find id = some dealer → dealer.deletedAt = none →
    dealer.profileId = some profileId → store.IsActive profileId → profileId = id ∧ 3 < reach

/-- The operation keeps the accounts coherent. -/
def KeepsWhole (action : AccountAction) : Prop :=
  match action.operation with
  | .createProvider dto => store.CreatesWhole settings action.drawn dto action.reach
  | .replaceProvider dto => store.ReplacesWhole settings action.drawn dto action.reach
  | .deleteProvider _ => True
  | .createDealer dto => store.CreatesWholeDealer settings action.drawn dto action.reach
  | .replaceDealer dto => store.ReplacesWholeDealer settings action.drawn dto action.reach
  | .deleteDealer id => store.DeletesWholeDealer id action.reach

end Conditions

/-! ### One account at a time -/

variable {settings : AccountSettings} {store next : Store}

/-- The account of a provider who is not deleted. -/
structure Whole (settings : AccountSettings) (store : Store) (provider : ServiceProvider) :
    Prop where
  login : ∃ login, store.findLogin provider.id = some login ∧ login.IsOf settings provider
  dealer : provider.type = .dealer ↔ store.IsProfile provider.id
  worker : provider.type = .worker ↔ provider.dealerId ≠ none

def WholeAt (settings : AccountSettings) (store : Store) (id : Uuid) : Prop :=
  ∀ provider, store.providers.find id = some provider → provider.deletedAt = none →
    store.Whole settings provider

/-- The two stores agree about a provider. -/
structure SameAt (next store : Store) (id : Uuid) : Prop where
  provider : next.providers.find id = store.providers.find id
  login : next.logins.find (.provider, id) = store.logins.find (.provider, id)
  profile : next.IsProfile id ↔ store.IsProfile id

theorem SameAt.refl (store : Store) (id : Uuid) : store.SameAt store id := ⟨rfl, rfl, Iff.rfl⟩

theorem SameAt.trans {last : Store} {id : Uuid} (later : last.SameAt next id)
    (earlier : next.SameAt store id) : last.SameAt store id :=
  ⟨later.provider.trans earlier.provider, later.login.trans earlier.login,
    later.profile.trans earlier.profile⟩

theorem activeLogins_eq (store : Store) (id : Uuid) :
    store.activeLogins id = (store.findLogin id).toList := by
  rw [findLogin, ← store.logins.filter_key, activeLogins]
  refine List.filter_congr fun login _ => ?_
  rw [Bool.eq_iff_iff]
  simp [UserLogin.owner, and_assoc]

theorem coherent_iff (settings : AccountSettings) (store : Store) :
    store.Coherent settings ↔ (∀ id, store.WholeAt settings id) ∧ store.Distinct := by
  have single (id : Uuid) (login : UserLogin) :
      store.activeLogins id = [login] ↔ store.findLogin id = some login := by
    rw [activeLogins_eq]
    cases store.findLogin id <;> simp
  constructor
  · intro coherent
    refine ⟨fun id provider found active => ?_, coherent.distinct⟩
    obtain ⟨member, rfl⟩ := store.providers.find_key found
    obtain ⟨login, alone, names⟩ := coherent.login provider member active
    exact ⟨⟨login, (single _ _).mp alone, names⟩, coherent.dealer provider member active,
      coherent.worker provider member active⟩
  · rintro ⟨whole, distinct⟩
    have each : ∀ provider ∈ store.providers.rows, provider.deletedAt = none →
        store.Whole settings provider := fun provider member active =>
      whole provider.id provider (store.providers.find_of_mem member) active
    refine ⟨fun provider member active => ?_, fun provider member active =>
      (each provider member active).dealer, fun provider member active =>
      (each provider member active).worker, distinct⟩
    obtain ⟨login, found, names⟩ := (each provider member active).login
    exact ⟨login, (single _ _).mpr found, names⟩

theorem SameAt.wholeAt {id : Uuid} (same : next.SameAt store id)
    (whole : store.WholeAt settings id) : next.WholeAt settings id := by
  intro provider found active
  have stored := found
  rw [same.provider] at stored
  obtain ⟨-, rfl⟩ := store.providers.find_key stored
  obtain ⟨⟨login, signsIn, names⟩, dealer, worker⟩ := whole provider stored active
  refine ⟨⟨login, ?_, names⟩, dealer.trans same.profile.symm, worker⟩
  rw [findLogin, same.login]
  exact signsIn

/-- When accounts were coherent they still are exactly if those that have changed are whole. -/
theorem coherent_iff_of_sameAt (changed : Uuid → Prop) (coherent : store.Coherent settings)
    (same : ∀ id, ¬changed id → next.SameAt store id) (distinct : next.Distinct) :
    next.Coherent settings ↔ ∀ id, changed id → next.WholeAt settings id := by
  rw [coherent_iff, and_iff_left distinct]
  refine ⟨fun whole id _ => whole id, fun whole id => ?_⟩
  by_cases change : changed id
  · exact whole id change
  · exact (same id change).wholeAt (((coherent_iff settings store).mp coherent).1 id)

theorem wholeAt_of_not_isActive {id : Uuid} (inactive : ¬store.IsActive id) :
    store.WholeAt settings id :=
  fun provider found active => absurd ⟨provider, found, active⟩ inactive

theorem wholeAt_iff {provider : ServiceProvider} {id : Uuid}
    (found : store.providers.find id = some provider) :
    store.WholeAt settings id ↔ (provider.deletedAt = none → store.Whole settings provider) := by
  refine ⟨fun whole => whole provider found, fun whole other same => ?_⟩
  cases found.symm.trans same
  exact whole

/-- When only one account has changed, all are coherent exactly if that one is whole. -/
theorem coherent_iff_of_written {provider : ServiceProvider} (coherent : store.Coherent settings)
    (written : next.providers.find provider.id = some provider)
    (same : ∀ id, id ≠ provider.id → next.SameAt store id) (distinct : next.Distinct) :
    next.Coherent settings ↔ (provider.deletedAt = none → next.Whole settings provider) := by
  rw [coherent_iff_of_sameAt (· = provider.id) coherent same distinct, ← wholeAt_iff written]
  refine ⟨fun whole => whole provider.id rfl, fun whole id same => ?_⟩
  rw [same]
  exact whole

/-! ### What is put -/

theorem find_putProvider_self (store : Store) (provider : ServiceProvider) :
    (store.putProvider provider).providers.find provider.id = some provider := by
  rw [find_putProvider, if_pos rfl]

theorem sameAt_putProvider (store : Store) {provider : ServiceProvider} {id : Uuid}
    (other : id ≠ provider.id) : (store.putProvider provider).SameAt store id where
  provider := by rw [find_putProvider, if_neg other.symm]
  login := rfl
  profile := Iff.rfl

theorem sameAt_putLogin (store : Store) {login : UserLogin} {id : Uuid}
    (other : login.owner ≠ (.provider, id)) : (store.putLogin login).SameAt store id where
  provider := rfl
  login := by rw [find_putLogin, if_neg other]
  profile := Iff.rfl

/-- The provider, unless it is deleted, has the names of no other one. -/
def LeavesNames (store : Store) (provider : ServiceProvider) : Prop :=
  provider.deletedAt = none → ∀ other ∈ store.providers.rows, other.deletedAt = none →
    other.id ≠ provider.id → other.emailAddress ≠ provider.emailAddress ∧
      other.phoneNumber ≠ provider.phoneNumber

/-- Saving a provider keeps the providers distinct when its names are free. -/
theorem Distinct.putProvider (distinct : store.Distinct) {provider : ServiceProvider}
    (free : store.LeavesNames provider) : (store.putProvider provider).Distinct := by
  intro first firstMember second secondMember firstActive secondActive share
  rw [Store.putProvider, Table.mem_save_iff] at firstMember secondMember
  obtain rfl | ⟨firstMember, firstOther⟩ := firstMember
  · obtain rfl | ⟨secondMember, secondOther⟩ := secondMember
    · rfl
    · obtain ⟨email, phone⟩ := free firstActive second secondMember secondActive secondOther
      exact absurd share (not_or.mpr ⟨Ne.symm phone, Ne.symm email⟩)
  · obtain rfl | ⟨secondMember, secondOther⟩ := secondMember
    · obtain ⟨email, phone⟩ := free secondActive first firstMember firstActive firstOther
      exact absurd share (not_or.mpr ⟨phone, email⟩)
    · exact distinct first firstMember second secondMember firstActive secondActive share

/-- What the checks have admitted is free. -/
theorem Admits.free {phoneNumber emailAddress : String} {ignored : Option Uuid} {id : Uuid}
    (admits : store.Admits phoneNumber emailAddress ignored)
    (own : ∀ other, ignored = some other → other = id) :
    ∀ other ∈ store.providers.rows, other.deletedAt = none → other.id ≠ id →
      other.emailAddress ≠ emailAddress ∧ other.phoneNumber ≠ phoneNumber :=
  fun other member active different => (store.admits_iff _ _ _).mp admits other member active
    fun same => different (own other.id same)

theorem findLogin_putLogin_self (store : Store) {login : UserLogin} {id : Uuid}
    (owner : login.owner = (.provider, id)) (active : login.deletion = none) :
    (store.putLogin login).findLogin id = some login := by
  rw [findLogin_eq_some_iff, find_putLogin, if_pos owner]
  exact ⟨rfl, active⟩

end Store

end FieldService.Accounts
