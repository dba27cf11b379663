/-
This file says what the operations on accounts can leave behind.

An operation checks that the names of a provider are not in use, writes the provider, and then its
login. So what it leaves is what it found, or that with the provider written, or with the login
written too; an operation on a dealer has one more stage. Each of the facts below gives the stages
of one operation or of one command, with exactly when they are reached.
-/

import FieldService.Accounts.Services

namespace FieldService.Accounts

open Auth Commands

/-! ### Rows that are put -/

namespace Store

variable (store : Store)

theorem find_putProvider (provider : ServiceProvider) (id : Uuid) :
    (store.putProvider provider).providers.find id =
      if provider.id = id then some provider else store.providers.find id :=
  store.providers.find_save provider id

theorem find_putLogin (login : UserLogin) (owner : UserType × Uuid) :
    (store.putLogin login).logins.find owner =
      if login.owner = owner then some login else store.logins.find owner :=
  store.logins.find_save login owner

theorem find_putDealer (dealer : Dealer) (id : Uuid) :
    (store.putDealer dealer).dealers.find id =
      if dealer.id = id then some dealer else store.dealers.find id :=
  store.dealers.find_save dealer id

@[simp]
theorem logins_putDealer (dealer : Dealer) :
    (store.putDealer dealer).logins = store.logins := rfl

theorem findLogin_eq_some_iff (userId : Uuid) (login : UserLogin) :
    store.findLogin userId = some login ↔
      store.logins.find (.provider, userId) = some login ∧ login.deletion = none := by
  rw [findLogin, Option.filter_eq_some_iff, Option.isNone_iff_eq_none]

theorem owner_of_findLogin {userId : Uuid} {login : UserLogin}
    (found : store.findLogin userId = some login) : login.owner = (.provider, userId) :=
  (store.logins.find_key ((store.findLogin_eq_some_iff userId login).mp found).1).2

end Store

theorem ProfileDto.id_over {dto : ProfileDto} {id : Uuid} {stored : Option ServiceProvider}
    (same : ∀ provider, stored = some provider → provider.id = id) :
    (dto.over id stored).id = id := by
  cases stored with
  | none => rfl
  | some provider => exact same provider rfl

@[simp]
theorem ProfileDto.phoneNumber_over (dto : ProfileDto) (id : Uuid)
    (stored : Option ServiceProvider) : (dto.over id stored).phoneNumber = dto.phoneNumber := by
  cases stored <;> rfl

@[simp]
theorem ProfileDto.emailAddress_over (dto : ProfileDto) (id : Uuid)
    (stored : Option ServiceProvider) : (dto.over id stored).emailAddress = dto.emailAddress := by
  cases stored <;> rfl

theorem ProfileDto.type_over (dto : ProfileDto) (id : Uuid) (stored : Option ServiceProvider) :
    (dto.over id stored).type =
      dto.type.getD ((stored.map (·.type)).getD .independent) := by
  cases stored <;> rfl

theorem ProfileDto.dealerId_over (dto : ProfileDto) (id : Uuid)
    (stored : Option ServiceProvider) :
    (dto.over id stored).dealerId = dto.dealer.over (stored.bind (·.dealerId)) := by
  cases stored <;> rfl

theorem ProfileDto.deletedAt_over (dto : ProfileDto) (id : Uuid)
    (stored : Option ServiceProvider) :
    (dto.over id stored).deletedAt = stored.bind (·.deletedAt) := by
  cases stored <;> rfl

/-- Saving a new profile once more changes nothing when its type is given. -/
theorem ProfileDto.over_over {dto : ProfileDto} {type : ServiceProviderType}
    (given : dto.type = some type) (id : Uuid) :
    dto.over id (some (dto.over id none)) = dto.over id none := by
  rw [ProfileDto.over, ProfileDto.over, given]
  cases dto.dealer <;> rfl

namespace ServiceProviderService

variable (settings : AccountSettings) (dto : ServiceProviderDto)

theorem type_user : (user settings dto).type =
    some (if dto.dealer.isGiven then .worker else .independent) := rfl

theorem dealer_user : (user settings dto).dealer = dto.dealer := rfl

theorem phoneNumber_user : (user settings dto).phoneNumber = stripPhoneNumber dto.phoneNumber := rfl

theorem emailAddress_user :
    (user settings dto).emailAddress = settings.toLowerCase dto.emailAddress := rfl

end ServiceProviderService

/-! ### The checks -/

/-- The names of a provider are not in use. -/
def Store.Admits (store : Store) (phoneNumber emailAddress : String)
    (ignoreServiceProviderId : Option Uuid) : Prop :=
  store.countMatching (·.emailAddress) emailAddress ignoreServiceProviderId = 0 ∧
    store.countMatching (·.phoneNumber) phoneNumber ignoreServiceProviderId = 0

instance (store : Store) (phoneNumber emailAddress : String) (ignored : Option Uuid) :
    Decidable (store.Admits phoneNumber emailAddress ignored) :=
  inferInstanceAs (Decidable (_ ∧ _))

theorem Store.countMatching_eq_zero_iff (store : Store) (column : ServiceProvider → String)
    (value : String) (ignored : Option Uuid) :
    store.countMatching column value ignored = 0 ↔
      ∀ other ∈ store.providers.rows, other.deletedAt = none → ignored ≠ some other.id →
        column other ≠ value := by
  simp only [countMatching, List.countP_eq_zero, decide_eq_true_iff]
  refine forall₂_congr fun other member => ?_
  constructor
  · intro matchesNot active others same
    exact matchesNot ⟨active, same, others⟩
  · rintro differs ⟨active, same, others⟩
    exact differs active others same

/-- Nobody else, who is not deleted, has one of the names. -/
theorem Store.admits_iff (store : Store) (phoneNumber emailAddress : String)
    (ignored : Option Uuid) :
    store.Admits phoneNumber emailAddress ignored ↔
      ∀ other ∈ store.providers.rows, other.deletedAt = none → ignored ≠ some other.id →
        other.emailAddress ≠ emailAddress ∧ other.phoneNumber ≠ phoneNumber := by
  rw [Admits, countMatching_eq_zero_iff, countMatching_eq_zero_iff]
  constructor
  · rintro ⟨emails, phones⟩ other member active others
    exact ⟨emails other member active others, phones other member active others⟩
  · intro both
    exact ⟨fun other member active others => (both other member active others).1,
      fun other member active others => (both other member active others).2⟩

theorem carryOut_validated (phoneNumber emailAddress : String) (ignored : Option Uuid)
    (rest : List AccountCommand) (reach : Nat) (store : Store) :
    carryOut (validateUniquenessOfPrimaryPhoneAndEmailOrThrow phoneNumber emailAddress ignored ++
        rest) reach store =
      if 1 < reach ∧ store.Admits phoneNumber emailAddress ignored then
        carryOut rest (reach - 2) store
      else store := by
  rw [validateUniquenessOfPrimaryPhoneAndEmailOrThrow, List.cons_append, List.cons_append,
    List.nil_append, carryOut_check, carryOut_check, ← ite_and, Nat.sub_sub]
  refine if_congr ?_ rfl rfl
  rw [Nat.sub_pos_iff_lt, decide_eq_true_iff, decide_eq_true_iff, Store.Admits]
  constructor
  · rintro ⟨⟨-, email⟩, some, phone⟩
    exact ⟨some, email, phone⟩
  · rintro ⟨some, email, phone⟩
    exact ⟨⟨Nat.zero_lt_of_lt some, email⟩, some, phone⟩

/-! ### The commands on logins -/

/-- A login is created. -/
def Store.Creates (store : Store) (input : UserLoginDto) (reach : Nat) : Prop :=
  0 < reach ∧ input.password ≠ none ∧ store.logins.find (.provider, input.userId) = none ∧
    store.namesAreFree (.provider, input.userId) none input.username (some input.secondaryUsername)

/-- The login that is there is updated. -/
def Store.Updates (store : Store) (input : UserLoginDto) (reach : Nat) : Prop :=
  0 < reach ∧ store.findLogin input.userId ≠ none ∧
    store.namesAreFree (.provider, input.userId) none input.username (some input.secondaryUsername)

theorem createUserLogin_cases (hash : String → String) (input : UserLoginDto) (reach : Nat)
    (store : Store) :
    (store.Creates input reach ∧ ∃ password, carryOut [createUserLogin hash input] reach store =
      store.putLogin (input.create hash password)) ∨
    (¬store.Creates input reach ∧ carryOut [createUserLogin hash input] reach store = store) := by
  cases given : input.password with
  | none =>
    right
    refine ⟨fun creates => creates.2.1 given, carryOut_of_error ⟨.passwordNotHashed, ?_⟩ [] reach⟩
    rw [createUserLogin, given]
  | some password =>
    have does : createUserLogin hash input store =
        if store.logins.find (input.create hash password).owner = none ∧
            store.accepts (input.create hash password) = true then
          .ok (store.putLogin (input.create hash password))
        else .error .constraintViolated := by
      rw [createUserLogin, given]
    rw [carryOut_of_ite does, carryOut_nil]
    have iffCreates : (0 < reach ∧ store.logins.find (input.create hash password).owner = none ∧
        store.accepts (input.create hash password) = true) ↔ store.Creates input reach := by
      rw [Store.Creates, given]
      simp only [ne_eq, reduceCtorEq, not_false_eq_true, true_and]
      rfl
    by_cases creates : store.Creates input reach
    · exact Or.inl ⟨creates, password, if_pos (iffCreates.mpr creates)⟩
    · exact Or.inr ⟨creates, if_neg (mt iffCreates.mp creates)⟩

theorem updateUserLogin_cases (hash : String → String) (input : UserLoginDto) (reach : Nat)
    (store : Store) :
    (store.Updates input reach ∧ ∃ login, store.findLogin input.userId = some login ∧
      carryOut [updateUserLogin hash input] reach store =
        store.putLogin (input.update hash login)) ∨
    (¬store.Updates input reach ∧ carryOut [updateUserLogin hash input] reach store = store) := by
  cases found : store.findLogin input.userId with
  | none =>
    right
    refine ⟨fun updates => updates.2.1 found, carryOut_of_error ⟨.badRequest, ?_⟩ [] reach⟩
    rw [updateUserLogin, found]
  | some login =>
    have does : updateUserLogin hash input store =
        if store.accepts (input.update hash login) = true then
          .ok (store.putLogin (input.update hash login))
        else .error .constraintViolated := by
      rw [updateUserLogin, found]
    have names : store.accepts (input.update hash login) =
        store.namesAreFree (.provider, input.userId) none input.username
          (some input.secondaryUsername) := by
      have owner : (input.update hash login).owner = (.provider, input.userId) := by
        show login.owner = (.provider, input.userId)
        exact store.owner_of_findLogin found
      have active : (input.update hash login).deletionToken = none := by
        rw [UserLogin.deletionToken, Option.map_eq_none_iff]
        exact ((store.findLogin_eq_some_iff _ _).mp found).2
      rw [Store.accepts, owner, active]
      rfl
    rw [carryOut_of_ite does, carryOut_nil, names]
    have iffUpdates : (0 < reach ∧ store.namesAreFree (.provider, input.userId) none input.username
        (some input.secondaryUsername) = true) ↔ store.Updates input reach := by
      rw [Store.Updates, found]
      simp only [ne_eq, reduceCtorEq, not_false_eq_true, true_and]
    by_cases updates : store.Updates input reach
    · exact Or.inl ⟨updates, login, rfl, if_pos (iffUpdates.mpr updates)⟩
    · exact Or.inr ⟨updates, if_neg (mt iffUpdates.mp updates)⟩

theorem deleteUserLogin_cases (userId : Uuid) (deletion : Deletion) (reach : Nat)
    (store : Store) :
    carryOut [deleteUserLogin userId deletion] reach store = store ∨
    ∃ login, store.findLogin userId = some login ∧
      carryOut [deleteUserLogin userId deletion] reach store =
        store.putLogin { login with deletion := some deletion } := by
  cases found : store.findLogin userId with
  | none =>
    refine Or.inl (carryOut_of_error ⟨.badRequest, ?_⟩ [] reach)
    rw [deleteUserLogin, found]
  | some login =>
    have does : deleteUserLogin userId deletion store =
        if store.accepts { login with deletion := some deletion } = true then
          .ok (store.putLogin { login with deletion := some deletion })
        else .error .constraintViolated := by
      rw [deleteUserLogin, found]
    rw [carryOut_of_ite does, carryOut_nil]
    split
    · exact Or.inr ⟨login, rfl, rfl⟩
    · exact Or.inl rfl

/-! ### The operations on providers -/

/-- A profile comes through the checks and is saved. -/
def Store.Writes (store : Store) (user : ProfileDto) (ignored : Option Uuid) (reach : Nat) : Prop :=
  2 < reach ∧ store.Admits user.phoneNumber user.emailAddress ignored ∧
    store.hasDealer user.dealer = true

instance (store : Store) (user : ProfileDto) (ignored : Option Uuid) (reach : Nat) :
    Decidable (store.Writes user ignored reach) :=
  inferInstanceAs (Decidable (_ ∧ _))

/-- A provider is checked and saved, and then its login is seen to. -/
theorem carryOut_saveProvider (user : ProfileDto) (id : Uuid) (ignored : Option Uuid)
    (last : AccountCommand) (reach : Nat) (store : Store) :
    carryOut (validateUniquenessOfPrimaryPhoneAndEmailOrThrow user.phoneNumber user.emailAddress
        ignored ++ [saveProvider user id, last]) reach store =
      if store.Writes user ignored reach then
        carryOut [last] (reach - 3) (store.putProvider (user.over id (store.providers.find id)))
      else store := by
  have does : saveProvider user id store = if store.hasDealer user.dealer = true then
      .ok (store.putProvider (user.over id (store.providers.find id)))
      else .error .constraintViolated := rfl
  rw [carryOut_validated, carryOut_of_ite does, ← ite_and, Nat.sub_sub]
  refine if_congr ?_ rfl rfl
  rw [Nat.sub_pos_iff_lt, Store.Writes]
  constructor
  · rintro ⟨⟨-, free⟩, several, dealer⟩
    exact ⟨several, free, dealer⟩
  · rintro ⟨several, free, dealer⟩
    exact ⟨⟨Nat.lt_of_succ_lt several, free⟩, several, dealer⟩

theorem carryOut_createProvider (settings : AccountSettings) (drawn : Drawn)
    (dto : ServiceProviderDto) (reach : Nat) (store : Store) :
    carryOut (ServiceProviderService.createOne settings drawn dto) reach store =
      if store.Writes (ServiceProviderService.user settings dto) none reach then
        carryOut [createUserLogin settings.hash
            (ServiceProviderService.login settings dto (dto.id.getD drawn.id))] (reach - 3)
          (store.putProvider ((ServiceProviderService.user settings dto).over
            (dto.id.getD drawn.id) (store.providers.find (dto.id.getD drawn.id))))
      else store :=
  carryOut_saveProvider _ _ none _ reach store

theorem carryOut_replaceProvider (settings : AccountSettings) (drawn : Drawn)
    (dto : ServiceProviderDto) (reach : Nat) (store : Store) :
    carryOut (ServiceProviderService.replaceOne settings drawn dto) reach store =
      if store.Writes (ServiceProviderService.user settings dto) dto.id reach then
        carryOut [updateUserLogin settings.hash
            (ServiceProviderService.login settings dto (dto.id.getD drawn.id))] (reach - 3)
          (store.putProvider ((ServiceProviderService.user settings dto).over
            (dto.id.getD drawn.id) (store.providers.find (dto.id.getD drawn.id))))
      else store :=
  carryOut_saveProvider _ _ dto.id _ reach store

/-- A provider is deleted, and then its login is. -/
theorem carryOut_softDeleteProvider_cases (drawn : Drawn) (id : Uuid) (reach : Nat)
    (store : Store) :
    (∃ provider, 1 < reach ∧ store.providers.find id = some provider ∧ provider.deletedAt = none ∧
      carryOut (ServiceProviderService.softDeleteOne drawn id) reach store =
        carryOut [deleteUserLogin id drawn.deletion] (reach - 2)
          (store.putProvider { provider with deletedAt := some drawn.deletion.deletedAt })) ∨
    ((∀ provider, store.providers.find id = some provider → provider.deletedAt = none →
        ¬1 < reach) ∧
      carryOut (ServiceProviderService.softDeleteOne drawn id) reach store = store) := by
  rw [ServiceProviderService.softDeleteOne]
  cases found : store.providers.find id with
  | none =>
    refine Or.inr ⟨fun provider missing => (by cases missing), ?_⟩
    rw [carryOut_check, found, if_neg (by simp)]
  | some provider =>
    have does : softDeleteProvider id drawn.deletion.deletedAt store =
        .ok (store.putProvider { provider with deletedAt := some drawn.deletion.deletedAt }) := by
      rw [softDeleteProvider, found]
    rw [carryOut_check_of_ok does, found, Option.any_some]
    by_cases deletes : 1 < reach ∧ provider.deletedAt = none
    · exact Or.inl ⟨provider, deletes.1, rfl, deletes.2,
        if_pos ⟨deletes.1, decide_eq_true deletes.2⟩⟩
    · refine Or.inr ⟨fun same found active several => ?_,
        if_neg fun both => deletes ⟨both.1, of_decide_eq_true both.2⟩⟩
      cases found
      exact deletes ⟨several, active⟩

/-! ### The operations on dealers -/

theorem Store.id_dealerWith (store : Store) (id : Uuid) (profileId : Option Uuid) :
    (store.dealerWith id profileId).id = id := by
  unfold dealerWith
  split
  · rfl
  · rename_i dealer found
    exact (store.dealers.find_key found).2

/-- A dealer is never lost. -/
theorem Store.hasDealer_putDealer {store : Store} {reference : Reference}
    (has : store.hasDealer reference = true) (row : Dealer) :
    (store.putDealer row).hasDealer reference = true := by
  cases reference with
  | undefined => rfl
  | null => rfl
  | dealer id =>
    rw [hasDealer, find_putDealer]
    split
    · rfl
    · exact has

/-- The store with a dealer and its stored profile saved. -/
def Store.withDealer (store : Store) (id : Uuid) (profile : ProfileDto) (stored : ServiceProvider) :
    Store :=
  (store.putDealer (store.dealerWith id profile.id)).putProvider
    (profile.over stored.id (some stored))

theorem saveDealer_of_stored {store : Store} {profile : ProfileDto} {profileId : Uuid}
    {stored : ServiceProvider} (named : profile.id = some profileId)
    (found : store.providers.find profileId = some stored) (id : Uuid) :
    saveDealer id profile store =
      if store.isTaken profileId id = false ∧
          (store.putDealer (store.dealerWith id profile.id)).hasDealer profile.dealer = true then
        .ok (store.withDealer id profile stored)
      else .error .constraintViolated := by
  have same : stored.id = profileId := (store.providers.find_key found).2
  simp only [saveDealer, named, found, Store.withDealer, same]

/-- A profile is checked and inserted, and then the dealer is saved and the login is seen to. -/
theorem carryOut_insertProvider (user : ProfileDto) (id : Uuid) (rest : List AccountCommand)
    (reach : Nat) (store : Store) :
    carryOut (validateUniquenessOfPrimaryPhoneAndEmailOrThrow user.phoneNumber user.emailAddress
        none ++ insertProvider user id :: rest) reach store =
      if store.Writes user none reach ∧ store.providers.find id = none then
        carryOut rest (reach - 3) (store.putProvider (user.over id none))
      else store := by
  have does : insertProvider user id store =
      if store.providers.find id = none ∧ store.hasDealer user.dealer = true then
        .ok (store.putProvider (user.over id none))
      else .error .constraintViolated := rfl
  rw [carryOut_validated, carryOut_of_ite does, ← ite_and, Nat.sub_sub]
  refine if_congr ?_ rfl rfl
  rw [Nat.sub_pos_iff_lt, Store.Writes]
  constructor
  · rintro ⟨⟨-, free⟩, several, absent, dealer⟩
    exact ⟨⟨several, free, dealer⟩, absent⟩
  · rintro ⟨⟨several, free, dealer⟩, absent⟩
    exact ⟨⟨Nat.lt_of_succ_lt several, free⟩, several, absent, dealer⟩

theorem carryOut_createDealer (settings : AccountSettings) (drawn : Drawn) (dto : DealerDto)
    (reach : Nat) (store : Store) :
    carryOut (DealerService.createOne settings drawn dto) reach store =
      if store.Writes (DealerService.insertedProfile settings drawn dto) none reach ∧
          store.providers.find (dto.profile.id.getD drawn.id) = none then
        carryOut
          [saveDealer (dto.profile.id.getD drawn.id)
              (DealerService.insertedProfile settings drawn dto),
            createUserLogin settings.hash
              (DealerService.login settings dto (dto.profile.id.getD drawn.id))] (reach - 3)
          (store.putProvider ((DealerService.insertedProfile settings drawn dto).over
            (dto.profile.id.getD drawn.id) none))
      else store :=
  carryOut_insertProvider _ _ _ reach store

/-- A dealer is deleted, and then the provider with its identifier is. -/
theorem carryOut_softDeleteDealer_cases (drawn : Drawn) (id : Uuid) (reach : Nat) (store : Store) :
    (∃ dealer, 1 < reach ∧ store.dealers.find id = some dealer ∧ dealer.deletedAt = none ∧
      carryOut (DealerService.softDeleteOne drawn id) reach store =
        carryOut (ServiceProviderService.softDeleteOne drawn id) (reach - 2)
          (store.putDealer { dealer with deletedAt := some drawn.deletion.deletedAt })) ∨
    ((∀ dealer, store.dealers.find id = some dealer → dealer.deletedAt = none → ¬1 < reach) ∧
      carryOut (DealerService.softDeleteOne drawn id) reach store = store) := by
  rw [DealerService.softDeleteOne, List.cons_append, List.cons_append, List.nil_append]
  cases found : store.dealers.find id with
  | none =>
    refine Or.inr ⟨fun dealer missing => (by cases missing), ?_⟩
    rw [carryOut_check, found, if_neg (by simp)]
  | some dealer =>
    have does : softDeleteDealer id drawn.deletion.deletedAt store =
        .ok (store.putDealer { dealer with deletedAt := some drawn.deletion.deletedAt }) := by
      rw [softDeleteDealer, found]
    rw [carryOut_check_of_ok does, found, Option.any_some]
    by_cases deletes : 1 < reach ∧ dealer.deletedAt = none
    · exact Or.inl ⟨dealer, deletes.1, rfl, deletes.2,
        if_pos ⟨deletes.1, decide_eq_true deletes.2⟩⟩
    · refine Or.inr ⟨fun same found active several => ?_,
        if_neg fun both => deletes ⟨both.1, of_decide_eq_true both.2⟩⟩
      cases found
      exact deletes ⟨several, active⟩

end FieldService.Accounts
