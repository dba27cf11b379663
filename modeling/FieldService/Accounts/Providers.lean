/-
This file proves that an operation on a provider keeps the accounts coherent exactly under its
condition.

What holds whatever is done is that a login belongs to a provider that is there, that a profile is
there and has one dealer, deleted or not, and that addresses are stored in lower case. With this
each operation is followed stage by stage: the accounts it does not write stay as they were, and
the one it writes is whole or not by what it is given.
-/

import FieldService.Accounts.Coherence

namespace FieldService.Accounts

open Auth Commands Execution

namespace Store

variable {settings : AccountSettings} {store next : Store}

/-! ### What always holds -/

structure Sound (settings : AccountSettings) (store : Store) : Prop where
  owned : ∀ id, store.providers.find id = none → store.logins.find (.provider, id) = none
  profiles : ∀ dealer ∈ store.dealers.rows, ∀ id, dealer.profileId = some id →
    store.providers.find id ≠ none
  single : ∀ first ∈ store.dealers.rows, ∀ second ∈ store.dealers.rows, ∀ id,
    first.profileId = some id → second.profileId = some id → first = second
  lower : ∀ provider ∈ store.providers.rows,
    settings.toLowerCase provider.emailAddress = provider.emailAddress

theorem sound_empty (settings : AccountSettings) : empty.Sound settings where
  owned _ _ := rfl
  profiles _ member := by cases member
  single _ member := by cases member
  lower _ member := by cases member

/-- A provider is never lost. -/
theorem find_putProvider_ne_none {id : Uuid} (present : store.providers.find id ≠ none)
    (provider : ServiceProvider) : (store.putProvider provider).providers.find id ≠ none := by
  rw [find_putProvider]
  split
  · exact Option.some_ne_none provider
  · exact present

theorem Sound.putProvider (sound : store.Sound settings) {provider : ServiceProvider}
    (lower : settings.toLowerCase provider.emailAddress = provider.emailAddress) :
    (store.putProvider provider).Sound settings where
  owned id absent := sound.owned id (by
    by_contra present
    exact find_putProvider_ne_none present provider absent)
  profiles dealer member id named :=
    find_putProvider_ne_none (sound.profiles dealer member id named) provider
  single := sound.single
  lower other member := by
    obtain rfl | old := store.providers.mem_save member
    · exact lower
    · exact sound.lower other old

theorem Sound.putLogin (sound : store.Sound settings) {login : UserLogin} {userId : Uuid}
    (owner : login.owner = (.provider, userId)) (present : store.providers.find userId ≠ none) :
    (store.putLogin login).Sound settings where
  owned id absent := by
    rw [find_putLogin, owner, if_neg]
    · exact sound.owned id absent
    · intro same
      injection same with _ same
      rw [same] at present
      exact present absent
  profiles := sound.profiles
  single := sound.single
  lower := sound.lower

theorem Sound.putDealer (sound : store.Sound settings) {dealer : Dealer}
    (fits : ∀ id, dealer.profileId = some id → store.providers.find id ≠ none ∧
      ∀ other ∈ store.dealers.rows, other.id ≠ dealer.id → other.profileId ≠ some id) :
    (store.putDealer dealer).Sound settings where
  owned := sound.owned
  profiles other member id named := by
    obtain rfl | old := store.dealers.mem_save member
    · exact (fits id named).1
    · exact sound.profiles other old id named
  single := by
    intro first firstMember second secondMember id firstNamed secondNamed
    rw [Store.putDealer, Table.mem_save_iff] at firstMember secondMember
    obtain rfl | ⟨firstMember, firstOther⟩ := firstMember
    · obtain rfl | ⟨secondMember, secondOther⟩ := secondMember
      · rfl
      · exact absurd secondNamed ((fits id firstNamed).2 second secondMember secondOther)
    · obtain rfl | ⟨secondMember, secondOther⟩ := secondMember
      · exact absurd firstNamed ((fits id secondNamed).2 first firstMember firstOther)
      · exact sound.single first firstMember second secondMember id firstNamed secondNamed
  lower := sound.lower

theorem Sound.find_ne_none_of_findLogin (sound : store.Sound settings) {id : Uuid}
    {login : UserLogin} (found : store.findLogin id = some login) :
    store.providers.find id ≠ none := by
  intro absent
  have stored := ((store.findLogin_eq_some_iff id login).mp found).1
  rw [sound.owned id absent] at stored
  cases stored

/-! ### The commands on logins keep it -/

theorem Sound.createUserLogin (sound : store.Sound settings) (hash : String → String)
    {input : UserLoginDto} (present : store.providers.find input.userId ≠ none) (reach : Nat) :
    (carryOut [createUserLogin hash input] reach store).Sound settings := by
  obtain ⟨-, password, creates⟩ | ⟨-, refuses⟩ := createUserLogin_cases hash input reach store
  · rw [creates]
    exact sound.putLogin rfl present
  · rwa [refuses]

theorem Sound.updateUserLogin (sound : store.Sound settings) (hash : String → String)
    (input : UserLoginDto) (reach : Nat) :
    (carryOut [updateUserLogin hash input] reach store).Sound settings := by
  obtain ⟨-, login, found, updates⟩ | ⟨-, refuses⟩ := updateUserLogin_cases hash input reach store
  · rw [updates]
    have owner := store.owner_of_findLogin found
    exact sound.putLogin owner (sound.find_ne_none_of_findLogin found)
  · rwa [refuses]

theorem Sound.deleteUserLogin (sound : store.Sound settings) (userId : Uuid) (deletion : Deletion)
    (reach : Nat) : (carryOut [deleteUserLogin userId deletion] reach store).Sound settings := by
  obtain refuses | ⟨login, found, deletes⟩ := deleteUserLogin_cases userId deletion reach store
  · rwa [refuses]
  · rw [deletes]
    have owner := store.owner_of_findLogin found
    exact sound.putLogin owner (sound.find_ne_none_of_findLogin found)

/-! ### Providers and their logins -/

theorem sameAt_of_owner {login : UserLogin} {id other : Uuid}
    (owner : login.owner = (.provider, id)) (different : other ≠ id) :
    (next.putLogin login).SameAt next other := by
  refine sameAt_putLogin next ?_
  rw [owner]
  intro same
  injection same with _ same
  exact different same.symm

/-- A provider and its login are all that is written. -/
theorem sameAt_written (store : Store) {provider : ServiceProvider} {login : UserLogin} {id : Uuid}
    (owner : login.owner = (.provider, provider.id)) (other : id ≠ provider.id) :
    ((store.putProvider provider).putLogin login).SameAt store id :=
  (sameAt_of_owner owner other).trans (sameAt_putProvider store other)

section Written

variable {provider : ServiceProvider} {login : UserLogin}

/-- A provider is saved and nothing else. -/
theorem coherent_putProvider_iff (coherent : store.Coherent settings)
    (free : store.LeavesNames provider) :
    (store.putProvider provider).Coherent settings ↔
      (provider.deletedAt = none → store.Whole settings provider) := by
  rw [coherent_iff_of_written coherent (find_putProvider_self store provider)
    (fun id other => sameAt_putProvider store other) (coherent.distinct.putProvider free)]
  refine imp_congr_right fun _ => ?_
  exact ⟨fun whole => ⟨whole.login, whole.dealer, whole.worker⟩,
    fun whole => ⟨whole.login, whole.dealer, whole.worker⟩⟩

/-- A provider is saved together with its login. -/
theorem coherent_putLogin_iff (coherent : store.Coherent settings)
    (owner : login.owner = (.provider, provider.id)) (signsIn : login.deletion = none)
    (free : store.LeavesNames provider) :
    ((store.putProvider provider).putLogin login).Coherent settings ↔
      (provider.deletedAt = none → login.IsOf settings provider ∧
        (provider.type = .dealer ↔ store.IsProfile provider.id) ∧
        (provider.type = .worker ↔ provider.dealerId ≠ none)) := by
  have written : ((store.putProvider provider).putLogin login).providers.find provider.id =
      some provider := find_putProvider_self store provider
  rw [coherent_iff_of_written coherent written
    (fun id other => sameAt_written store owner other) (coherent.distinct.putProvider free)]
  refine imp_congr_right fun _ => ?_
  have found := findLogin_putLogin_self (store.putProvider provider) owner signsIn
  constructor
  · rintro ⟨⟨other, there, names⟩, dealer, worker⟩
    cases found.symm.trans there
    exact ⟨names, dealer, worker⟩
  · rintro ⟨names, dealer, worker⟩
    exact ⟨⟨login, found, names⟩, dealer, worker⟩

/-- What becomes of a deleted provider and its login does not matter. -/
theorem coherent_written_of_deleted (coherent : store.Coherent settings)
    (owner : login.owner = (.provider, provider.id)) (deleted : provider.deletedAt ≠ none) :
    ((store.putProvider provider).putLogin login).Coherent settings := by
  have written : ((store.putProvider provider).putLogin login).providers.find provider.id =
      some provider := find_putProvider_self store provider
  rw [coherent_iff_of_written coherent written (fun id other => sameAt_written store owner other)
    (coherent.distinct.putProvider fun active => absurd active deleted)]
  exact fun active => absurd active deleted

end Written

/-! ### Creating a provider -/

theorem not_isProfile_of_find_eq_none (sound : store.Sound settings) {id : Uuid}
    (absent : store.providers.find id = none) : ¬store.IsProfile id := by
  rintro ⟨dealer, member, -, named⟩
  exact sound.profiles dealer member id named absent

theorem findLogin_of_find_eq_none (sound : store.Sound settings) {id : Uuid}
    (absent : store.providers.find id = none) : store.findLogin id = none := by
  rw [findLogin, sound.owned id absent, Option.filter_none]

/-- A provider is a worker exactly if it has a dealer, unless it is told none and keeps one. -/
theorem type_user_eq_worker_iff (dto : ServiceProviderDto) (id : Uuid)
    (stored : Option ServiceProvider) :
    (((ServiceProviderService.user settings dto).over id stored).type = .worker ↔
        ((ServiceProviderService.user settings dto).over id stored).dealerId ≠ none) ↔
      (dto.dealer = .undefined → stored.bind (·.dealerId) = none) := by
  rw [ProfileDto.type_over, ProfileDto.dealerId_over, ServiceProviderService.type_user,
    ServiceProviderService.dealer_user, Option.getD_some]
  cases dto.dealer <;> simp [Reference.isGiven, Reference.over]

theorem type_user_ne_dealer (dto : ServiceProviderDto) (id : Uuid)
    (stored : Option ServiceProvider) :
    ((ServiceProviderService.user settings dto).over id stored).type ≠ .dealer := by
  rw [ProfileDto.type_over, ServiceProviderService.type_user, Option.getD_some]
  split <;> decide

/-- The names that are saved are those of the login. -/
theorem isOf_user_iff (dto : ServiceProviderDto) (id : Uuid) (stored : Option ServiceProvider)
    (login : UserLogin) :
    login.IsOf settings ((ServiceProviderService.user settings dto).over id stored) ↔
      login.username = (ServiceProviderService.login settings dto id).username ∧
      login.secondaryUsername =
        some (ServiceProviderService.login settings dto id).secondaryUsername ∧
      login.groups = (ServiceProviderService.login settings dto id).groups := by
  rw [UserLogin.IsOf, ProfileDto.phoneNumber_over, ProfileDto.emailAddress_over,
    ProfileDto.type_over, ServiceProviderService.type_user, Option.getD_some,
    ServiceProviderService.emailAddress_user, settings.toLowerCase_toLowerCase,
    ServiceProviderService.phoneNumber_user, ServiceProviderService.login]

/-- The names that the checks have admitted are no active provider's who is not passed over. -/
theorem Admits.phoneNumber_ne {phoneNumber emailAddress : String} {ignored : Option Uuid}
    {id : Uuid} {provider : ServiceProvider}
    (admits : store.Admits phoneNumber emailAddress ignored)
    (found : store.providers.find id = some provider) (active : provider.deletedAt = none)
    (others : ignored ≠ some id) : provider.phoneNumber ≠ phoneNumber := by
  obtain ⟨member, rfl⟩ := store.providers.find_key found
  exact ((store.admits_iff _ _ _).mp admits provider member active others).2

/-- The names that are saved over a provider are free. -/
theorem Admits.free_over {dto : ProfileDto} {ignored : Option Uuid} {id : Uuid}
    (admits : store.Admits dto.phoneNumber dto.emailAddress ignored)
    (own : ∀ other, ignored = some other → other = id) {provider : ServiceProvider}
    (isId : provider.id = id) (phone : provider.phoneNumber = dto.phoneNumber)
    (email : provider.emailAddress = dto.emailAddress) : store.LeavesNames provider := by
  intro _ other member active different
  rw [phone, email]
  exact admits.free own other member active (isId ▸ different)

/-- The login a provider has had is right for what is saved over it exactly if that keeps the
names and the type. -/
theorem signsIn_iff_keepsNames (sound : store.Sound settings) (coherent : store.Coherent settings)
    {id : Uuid} {stored next : ServiceProvider} (found : store.providers.find id = some stored)
    (active : stored.deletedAt = none)
    (lower : settings.toLowerCase next.emailAddress = next.emailAddress) :
    (∃ login, store.findLogin id = some login ∧ login.IsOf settings next) ↔
      next.KeepsNames stored := by
  obtain ⟨member, rfl⟩ := store.providers.find_key found
  obtain ⟨⟨own, there, phone, email, groups⟩, -, -⟩ :=
    ((coherent_iff settings store).mp coherent).1 stored.id stored found active
  rw [sound.lower stored member] at email
  rw [there]
  constructor
  · rintro ⟨login, same, nextPhone, nextEmail, nextGroups⟩
    cases same
    rw [lower, email, Option.some.injEq] at nextEmail
    rw [groups, List.singleton_inj] at nextGroups
    exact ⟨nextPhone.symm.trans phone, nextEmail.symm, nextGroups.symm⟩
  · rintro ⟨samePhone, sameEmail, sameType⟩
    refine ⟨own, rfl, ?_, ?_, ?_⟩
    · rw [phone, samePhone]
    · rw [lower, email, sameEmail]
    · rw [groups, sameType]

/-- What is saved over a provider, or as a new one, by an operation on providers. -/
structure Saves (settings : AccountSettings) (store : Store) (dto : ServiceProviderDto)
    (saved : ServiceProvider) : Prop where
  phone : saved.phoneNumber = (ServiceProviderService.user settings dto).phoneNumber
  lower : settings.toLowerCase saved.emailAddress = saved.emailAddress
  notDealer : saved.type ≠ .dealer
  worker : (saved.type = .worker ↔ saved.dealerId ≠ none) ↔
    (dto.dealer = .undefined → (store.providers.find saved.id).bind (·.dealerId) = none)
  deletedAt : saved.deletedAt = (store.providers.find saved.id).bind (·.deletedAt)
  names : ∀ login : UserLogin, login.IsOf settings saved ↔
    login.username = (ServiceProviderService.login settings dto saved.id).username ∧
    login.secondaryUsername =
      some (ServiceProviderService.login settings dto saved.id).secondaryUsername ∧
    login.groups = (ServiceProviderService.login settings dto saved.id).groups

theorem id_over_find (store : Store) (dto : ProfileDto) (id : Uuid) :
    (dto.over id (store.providers.find id)).id = id :=
  ProfileDto.id_over fun _ found => (store.providers.find_key found).2

theorem saves_over (settings : AccountSettings) (store : Store) (dto : ServiceProviderDto)
    (id : Uuid) :
    store.Saves settings dto
      ((ServiceProviderService.user settings dto).over id (store.providers.find id)) where
  phone := ProfileDto.phoneNumber_over _ _ _
  lower := by
    rw [ProfileDto.emailAddress_over, ServiceProviderService.emailAddress_user,
      settings.toLowerCase_toLowerCase]
  notDealer := type_user_ne_dealer dto id _
  worker := by
    rw [id_over_find]
    exact type_user_eq_worker_iff dto id _
  deletedAt := by
    rw [id_over_find]
    exact ProfileDto.deletedAt_over _ _ _
  names login := by
    rw [id_over_find]
    exact isOf_user_iff dto id _ login

section Saves

variable {dto : ServiceProviderDto} {saved : ServiceProvider}

/-- A provider without a login is saved as a new one, or over one that has been deleted. -/
theorem deleted_of_findLogin_eq_none (coherent : store.Coherent settings) {id : Uuid}
    (signsOut : store.findLogin id = none) :
    store.providers.find id = none ∨
      ∃ stored, store.providers.find id = some stored ∧ stored.deletedAt ≠ none := by
  cases found : store.providers.find id with
  | none => exact Or.inl rfl
  | some stored =>
    refine Or.inr ⟨stored, rfl, fun active => ?_⟩
    obtain ⟨⟨login, there, -⟩, -, -⟩ :=
      ((coherent_iff settings store).mp coherent).1 id stored found active
    rw [(store.providers.find_key found).2, signsOut] at there
    cases there

/-- What is saved with a login of its own, where there has been none, is coherent. -/
theorem Saves.coherent_created (saves : store.Saves settings dto saved)
    (sound : store.Sound settings) (coherent : store.Coherent settings)
    (free : store.LeavesNames saved) (signsOut : store.findLogin saved.id = none)
    (password : String) :
    ((store.putProvider saved).putLogin ((ServiceProviderService.login settings dto
      saved.id).create settings.hash password)).Coherent settings := by
  obtain absent | ⟨stored, found, deleted⟩ := deleted_of_findLogin_eq_none coherent signsOut
  · have worker := saves.worker
    rw [absent] at worker
    refine (coherent_putLogin_iff coherent rfl rfl free).mpr fun _ => ?_
    exact ⟨(saves.names _).mpr ⟨rfl, rfl, rfl⟩,
      iff_of_false saves.notDealer (not_isProfile_of_find_eq_none sound absent),
      worker.mpr fun _ => rfl⟩
  · have deletedAt := saves.deletedAt
    rw [found, Option.bind_some] at deletedAt
    exact coherent_written_of_deleted coherent rfl (deletedAt ▸ deleted)

/-- What is saved without a login, under names that are nobody's, is coherent only over a provider
that has been deleted. -/
theorem Saves.coherent_putProvider_iff (saves : store.Saves settings dto saved)
    (sound : store.Sound settings) (coherent : store.Coherent settings)
    (admits : store.Admits (ServiceProviderService.user settings dto).phoneNumber
      (ServiceProviderService.user settings dto).emailAddress none)
    (free : store.LeavesNames saved) :
    (store.putProvider saved).Coherent settings ↔
      ∃ stored, store.providers.find saved.id = some stored ∧ stored.deletedAt ≠ none := by
  rw [Store.coherent_putProvider_iff coherent free]
  have deletedAt := saves.deletedAt
  cases found : store.providers.find saved.id with
  | none =>
    rw [found] at deletedAt
    refine iff_of_false (fun whole => ?_) fun deleted => ?_
    · obtain ⟨⟨login, there, -⟩, -, -⟩ := whole deletedAt
      cases (findLogin_of_find_eq_none sound found).symm.trans there
    · obtain ⟨stored, missing, -⟩ := deleted
      cases missing
  | some stored =>
    rw [found, Option.bind_some] at deletedAt
    constructor
    · refine fun whole => ⟨stored, rfl, fun active => ?_⟩
      have keeps := (signsIn_iff_keepsNames sound coherent found active saves.lower).mp
        (whole (deletedAt.trans active)).login
      exact admits.phoneNumber_ne found active (by simp) (keeps.1.symm.trans saves.phone)
    · rintro ⟨other, same, deleted⟩ active
      cases same
      exact absurd (deletedAt.symm.trans active) deleted

end Saves

theorem createProvider_iff (sound : store.Sound settings) (coherent : store.Coherent settings)
    (drawn : Drawn) (dto : ServiceProviderDto) (reach : Nat) :
    (carryOut (ServiceProviderService.createOne settings drawn dto) reach store).Coherent settings ↔
      store.CreatesWhole settings drawn dto reach := by
  rw [carryOut_createProvider]
  by_cases writes : store.Writes (ServiceProviderService.user settings dto) none reach
  swap
  · rw [if_neg writes]
    exact iff_of_true coherent fun written => absurd written writes
  rw [if_pos writes, CreatesWhole, forall_prop_of_true writes]
  generalize dto.id.getD drawn.id = id
  have isId := id_over_find store (ServiceProviderService.user settings dto) id
  have saves := saves_over settings store dto id
  have free := writes.2.1.free_over (by simp) isId (ProfileDto.phoneNumber_over _ _ _)
    (ProfileDto.emailAddress_over _ _ _)
  generalize (ServiceProviderService.user settings dto).over id (store.providers.find id) = saved
    at isId saves free
  subst isId
  obtain ⟨creates, password, does⟩ | ⟨refuses, does⟩ := createUserLogin_cases settings.hash
    (ServiceProviderService.login settings dto saved.id) (reach - 3) (store.putProvider saved)
  · have signsOut : store.findLogin saved.id = none := by
      rw [findLogin, show store.logins.find (.provider, saved.id) = none from creates.2.2.1,
        Option.filter_none]
    rw [does]
    exact iff_of_true (saves.coherent_created sound coherent free signsOut password)
      ((deleted_of_findLogin_eq_none coherent signsOut).imp_left fun absent => ⟨absent, creates⟩)
  · have notCreated : ¬store.Creates (ServiceProviderService.login settings dto saved.id)
      (reach - 3) := refuses
    rw [does, saves.coherent_putProvider_iff sound coherent writes.2.1 free,
      or_iff_right fun new => notCreated new.2]

theorem Sound.createProvider (sound : store.Sound settings) (drawn : Drawn)
    (dto : ServiceProviderDto) (reach : Nat) :
    (carryOut (ServiceProviderService.createOne settings drawn dto) reach store).Sound
      settings := by
  rw [carryOut_createProvider]
  split
  · have saves := saves_over settings store dto (dto.id.getD drawn.id)
    refine Sound.createUserLogin (sound.putProvider saves.lower) settings.hash ?_ (reach - 3)
    have present := find_putProvider_self store ((ServiceProviderService.user settings dto).over
      (dto.id.getD drawn.id) (store.providers.find (dto.id.getD drawn.id)))
    rw [id_over_find] at present
    show Table.find _ (dto.id.getD drawn.id) ≠ none
    rw [present]
    exact Option.some_ne_none _
  · exact sound

/-! ### Replacing a provider -/

/-- What an active provider becomes is whole under the conditions on the dealer and on the login. -/
theorem Saves.whole_iff (sound : store.Sound settings) (coherent : store.Coherent settings)
    {dto : ServiceProviderDto} {saved stored : ServiceProvider}
    (saves : store.Saves settings dto saved)
    (found : store.providers.find saved.id = some stored) (active : stored.deletedAt = none) :
    store.Whole settings saved ↔ ¬store.IsProfile saved.id ∧
      (dto.dealer = .undefined → stored.dealerId = none) ∧ saved.KeepsNames stored := by
  have worker := saves.worker
  rw [found, Option.bind_some] at worker
  have login := signsIn_iff_keepsNames sound coherent found active saves.lower
  constructor
  · rintro ⟨signsIn, dealer, isWorker⟩
    exact ⟨fun profile => saves.notDealer (dealer.mpr profile), worker.mp isWorker,
      login.mp signsIn⟩
  · rintro ⟨noProfile, told, keeps⟩
    exact ⟨login.mpr keeps, iff_of_false saves.notDealer noProfile, worker.mpr told⟩

/-- What an active provider and its login become is coherent under the conditions on the dealer. -/
theorem Saves.coherent_updated_iff (coherent : store.Coherent settings)
    {dto : ServiceProviderDto} {saved stored : ServiceProvider}
    (saves : store.Saves settings dto saved)
    (free : store.LeavesNames saved)
    (found : store.providers.find saved.id = some stored) {login : UserLogin}
    (there : store.findLogin saved.id = some login) :
    ((store.putProvider saved).putLogin ((ServiceProviderService.login settings dto
        saved.id).update settings.hash login)).Coherent settings ↔
      (stored.deletedAt = none → ¬store.IsProfile saved.id ∧
        (dto.dealer = .undefined → stored.dealerId = none)) := by
  have owner : ((ServiceProviderService.login settings dto saved.id).update settings.hash
      login).owner = (.provider, saved.id) := by
    show login.owner = (.provider, saved.id)
    exact store.owner_of_findLogin there
  have signsIn : ((ServiceProviderService.login settings dto saved.id).update settings.hash
      login).deletion = none := by
    show login.deletion = none
    exact ((store.findLogin_eq_some_iff _ _).mp there).2
  have deletedAt := saves.deletedAt
  have worker := saves.worker
  rw [found, Option.bind_some] at deletedAt worker
  rw [coherent_putLogin_iff coherent owner signsIn free, ← deletedAt]
  refine imp_congr_right fun _ => ?_
  constructor
  · rintro ⟨-, dealer, isWorker⟩
    exact ⟨fun profile => saves.notDealer (dealer.mpr profile), worker.mp isWorker⟩
  · rintro ⟨noProfile, told⟩
    exact ⟨(saves.names _).mpr ⟨rfl, rfl, rfl⟩, iff_of_false saves.notDealer noProfile,
      worker.mpr told⟩

theorem replaceProvider_iff (sound : store.Sound settings) (coherent : store.Coherent settings)
    (drawn : Drawn) (dto : ServiceProviderDto) (reach : Nat) :
    (carryOut (ServiceProviderService.replaceOne settings drawn dto) reach store).Coherent
        settings ↔ store.ReplacesWhole settings drawn dto reach := by
  rw [carryOut_replaceProvider]
  by_cases writes : store.Writes (ServiceProviderService.user settings dto) dto.id reach
  swap
  · rw [if_neg writes]
    exact iff_of_true coherent fun written => absurd written writes
  rw [if_pos writes, ReplacesWhole, forall_prop_of_true writes]
  have own : ∀ other, dto.id = some other → other = dto.id.getD drawn.id := by
    intro other given
    rw [given, Option.getD_some]
  generalize dto.id.getD drawn.id = id at own ⊢
  have isId := id_over_find store (ServiceProviderService.user settings dto) id
  have saves := saves_over settings store dto id
  have free := writes.2.1.free_over own isId (ProfileDto.phoneNumber_over _ _ _)
    (ProfileDto.emailAddress_over _ _ _)
  cases found : store.providers.find id with
  | none =>
    rw [found] at isId saves free
    generalize (ServiceProviderService.user settings dto).over id none = saved at isId saves free ⊢
    subst isId
    have active := saves.deletedAt
    rw [found] at active
    have signsOut := findLogin_of_find_eq_none sound found
    obtain ⟨updates, -⟩ | ⟨-, does⟩ := updateUserLogin_cases settings.hash
      (ServiceProviderService.login settings dto saved.id) (reach - 3) (store.putProvider saved)
    · exact absurd signsOut updates.2.1
    · rw [does, coherent_putProvider_iff coherent free]
      refine iff_of_false (fun whole => ?_) ?_
      · obtain ⟨⟨login, there, -⟩, -, -⟩ := whole active
        cases signsOut.symm.trans there
      · rintro ⟨stored, missing, -⟩
        cases missing
  | some stored =>
    have only (property : ServiceProvider → Prop) :
        (∃ other, some stored = some other ∧ property other) ↔ property stored := by
      simp only [Option.some.injEq, exists_eq_left']
    rw [only]
    rw [found] at isId saves free
    generalize (ServiceProviderService.user settings dto).over id (some stored) = saved
      at isId saves free ⊢
    subst isId
    have deletedAt := saves.deletedAt
    rw [found, Option.bind_some] at deletedAt
    obtain ⟨updates, login, there, does⟩ | ⟨refuses, does⟩ := updateUserLogin_cases settings.hash
      (ServiceProviderService.login settings dto saved.id) (reach - 3) (store.putProvider saved)
    · have updated : store.Updates (ServiceProviderService.login settings dto saved.id)
        (reach - 3) := updates
      rw [does, saves.coherent_updated_iff coherent free found there, or_iff_left_of_imp fun _ =>
        updated, and_iff_left updated]
    · have notUpdated : ¬store.Updates (ServiceProviderService.login settings dto saved.id)
        (reach - 3) := refuses
      rw [does, coherent_putProvider_iff coherent free, ← deletedAt]
      refine imp_congr_right fun active => ?_
      rw [saves.whole_iff sound coherent found (deletedAt.symm.trans active),
        or_iff_right notUpdated]

theorem Sound.replaceProvider (sound : store.Sound settings) (drawn : Drawn)
    (dto : ServiceProviderDto) (reach : Nat) :
    (carryOut (ServiceProviderService.replaceOne settings drawn dto) reach store).Sound
      settings := by
  rw [carryOut_replaceProvider]
  split
  · have saves := saves_over settings store dto (dto.id.getD drawn.id)
    exact Sound.updateUserLogin (sound.putProvider saves.lower) settings.hash _ (reach - 3)
  · exact sound

/-! ### Deleting a provider -/

theorem coherent_deleteProvider (coherent : store.Coherent settings) (drawn : Drawn) (id : Uuid)
    (reach : Nat) :
    (carryOut (ServiceProviderService.softDeleteOne drawn id) reach store).Coherent settings := by
  obtain ⟨provider, -, found, -, does⟩ | ⟨-, does⟩ :=
    carryOut_softDeleteProvider_cases drawn id reach store
  · rw [does]
    obtain ⟨-, rfl⟩ := store.providers.find_key found
    obtain refuses | ⟨login, there, deletes⟩ := deleteUserLogin_cases provider.id drawn.deletion
      (reach - 2)
      (store.putProvider { provider with deletedAt := some drawn.deletion.deletedAt })
    · rw [refuses, coherent_putProvider_iff coherent fun active => by cases active]
      exact fun active => by cases active
    · rw [deletes]
      have owner : ({ login with deletion := some drawn.deletion } : UserLogin).owner =
          (.provider, provider.id) := by
        show login.owner = (.provider, provider.id)
        exact store.owner_of_findLogin there
      exact coherent_written_of_deleted coherent owner (Option.some_ne_none _)
  · rwa [does]

theorem Sound.deleteProvider (sound : store.Sound settings) (drawn : Drawn) (id : Uuid)
    (reach : Nat) :
    (carryOut (ServiceProviderService.softDeleteOne drawn id) reach store).Sound settings := by
  obtain ⟨provider, -, found, -, does⟩ | ⟨-, does⟩ :=
    carryOut_softDeleteProvider_cases drawn id reach store
  · rw [does]
    refine Sound.deleteUserLogin (Sound.putProvider sound ?_) id drawn.deletion (reach - 2)
    exact sound.lower provider (store.providers.find_key found).1
  · rwa [does]

end Store

end FieldService.Accounts
