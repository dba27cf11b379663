/-
This file proves that creating or deleting a dealer keeps the accounts coherent exactly under its
condition.

Saving a dealer concerns three accounts: that of the profile it is saved with, that of the profile
it has had before, and that of the provider with the identifier of the dealer, whose login is the
one that is written. `WritesDealer.coherent_iff` says so once, for every operation that saves one.
-/

import FieldService.Accounts.Providers

namespace FieldService.Accounts

open Auth Commands Execution

namespace Store

variable {settings : AccountSettings} {store next : Store}

/-! ### Dealers and their profiles -/

/-- An active dealer has had the profile. -/
def HasProfile (store : Store) (id former : Uuid) : Prop :=
  ∃ dealer, store.dealers.find id = some dealer ∧ dealer.deletedAt = none ∧
    dealer.profileId = some former

theorem HasProfile.isProfile {id former : Uuid} (has : store.HasProfile id former) :
    store.IsProfile former := by
  obtain ⟨dealer, found, active, named⟩ := has
  exact ⟨dealer, (store.dealers.find_key found).1, active, named⟩

theorem isProfile_putDealer_iff (store : Store) (dealer : Dealer) (id : Uuid) :
    (store.putDealer dealer).IsProfile id ↔
      (dealer.deletedAt = none ∧ dealer.profileId = some id) ∨
      ∃ other ∈ store.dealers.rows, other.id ≠ dealer.id ∧ other.deletedAt = none ∧
        other.profileId = some id := by
  constructor
  · rintro ⟨other, member, active, named⟩
    rw [putDealer, Table.mem_save_iff] at member
    obtain rfl | ⟨member, different⟩ := member
    · exact Or.inl ⟨active, named⟩
    · exact Or.inr ⟨other, member, different, active, named⟩
  · rintro (⟨active, named⟩ | ⟨other, member, different, active, named⟩)
    · exact ⟨dealer, (Table.mem_save_iff _ _ _).mpr (Or.inl rfl), active, named⟩
    · exact ⟨other, (Table.mem_save_iff _ _ _).mpr (Or.inr ⟨member, different⟩), active, named⟩

/-- A dealer that is saved takes its profile from nobody but itself. -/
theorem isProfile_putDealer_of_other {dealer : Dealer} {id : Uuid}
    (other : ¬(dealer.deletedAt = none ∧ dealer.profileId = some id))
    (never : ¬store.HasProfile dealer.id id) :
    (store.putDealer dealer).IsProfile id ↔ store.IsProfile id := by
  rw [isProfile_putDealer_iff, or_iff_right other]
  constructor
  · rintro ⟨row, member, -, active, named⟩
    exact ⟨row, member, active, named⟩
  · rintro ⟨row, member, active, named⟩
    refine ⟨row, member, fun same => never ⟨row, ?_, active, named⟩, active, named⟩
    rw [← same]
    exact store.dealers.find_of_mem member

theorem sameAt_putDealer {dealer : Dealer} {id : Uuid}
    (other : ¬(dealer.deletedAt = none ∧ dealer.profileId = some id))
    (never : ¬store.HasProfile dealer.id id) : (store.putDealer dealer).SameAt store id :=
  ⟨rfl, rfl, isProfile_putDealer_of_other other never⟩

/-- What a dealer has had before and has no longer is nobody's profile. -/
theorem not_isProfile_putDealer_of_former (sound : store.Sound settings) {dealer : Dealer}
    {former : Uuid} (has : store.HasProfile dealer.id former)
    (other : ¬(dealer.deletedAt = none ∧ dealer.profileId = some former)) :
    ¬(store.putDealer dealer).IsProfile former := by
  rw [isProfile_putDealer_iff, or_iff_right other]
  rintro ⟨row, member, different, -, named⟩
  obtain ⟨stored, found, -, storedNamed⟩ := has
  obtain ⟨storedMember, same⟩ := store.dealers.find_key found
  rw [sound.single row member stored storedMember former named storedNamed] at different
  exact different same

/-- A profile that is nobody's any more is whole only when it is not active. -/
theorem wholeAt_former_iff (coherent : store.Coherent settings) {former : Uuid}
    (was : store.IsProfile former) (same : next.providers.find former =
      store.providers.find former) (lost : ¬next.IsProfile former) :
    next.WholeAt settings former ↔ ¬store.IsActive former := by
  constructor
  · rintro whole ⟨provider, found, active⟩
    obtain ⟨-, rfl⟩ := store.providers.find_key found
    have before := ((coherent_iff settings store).mp coherent).1 provider.id provider found active
    have after := whole provider (same.trans found) active
    exact lost (after.dealer.mp (before.dealer.mpr was))
  · rintro inactive provider found active
    exact absurd ⟨provider, same.symm.trans found, active⟩ inactive

/-! ### A dealer is written -/

/-- A dealer is saved with its profile, and perhaps the login with the identifier of the dealer. -/
structure WritesDealer (next store : Store) (dealer : Dealer) (profile : ServiceProvider) :
    Prop where
  providers : next.providers = (store.putProvider profile).providers
  dealers : next.dealers = (store.putDealer dealer).dealers
  logins : ∀ id, id ≠ dealer.id →
    next.logins.find (.provider, id) = store.logins.find (.provider, id)
  named : dealer.profileId = some profile.id
  single : ∀ other ∈ store.dealers.rows, other.id ≠ dealer.id →
    other.profileId ≠ some profile.id

section WritesDealer

variable {dealer : Dealer} {profile : ServiceProvider}

theorem WritesDealer.isProfile_iff (writes : next.WritesDealer store dealer profile) (id : Uuid) :
    next.IsProfile id ↔ (store.putDealer dealer).IsProfile id := by
  rw [IsProfile, writes.dealers]
  rfl

theorem WritesDealer.isProfile_profile_iff (writes : next.WritesDealer store dealer profile) :
    next.IsProfile profile.id ↔ dealer.deletedAt = none := by
  rw [writes.isProfile_iff, isProfile_putDealer_iff, or_iff_left, and_iff_left writes.named]
  rintro ⟨other, member, different, -, named⟩
  exact writes.single other member different named

theorem WritesDealer.find (writes : next.WritesDealer store dealer profile) (id : Uuid) :
    next.providers.find id =
      if profile.id = id then some profile else store.providers.find id := by
  rw [writes.providers, find_putProvider]

theorem WritesDealer.sameAt (writes : next.WritesDealer store dealer profile) {id : Uuid}
    (notProfile : id ≠ profile.id) (notDealer : id ≠ dealer.id)
    (notFormer : ¬store.HasProfile dealer.id id) : next.SameAt store id where
  provider := by rw [writes.find, if_neg notProfile.symm]
  login := writes.logins id notDealer
  profile := by
    rw [writes.isProfile_iff]
    refine isProfile_putDealer_of_other ?_ notFormer
    rw [writes.named, Option.some_inj]
    exact fun both => notProfile both.2.symm

theorem WritesDealer.wholeAt_former_iff (writes : next.WritesDealer store dealer profile)
    (sound : store.Sound settings) (coherent : store.Coherent settings) {former : Uuid}
    (has : store.HasProfile dealer.id former) (other : former ≠ profile.id) :
    next.WholeAt settings former ↔ ¬store.IsActive former := by
  refine Store.wholeAt_former_iff coherent has.isProfile ?_ ?_
  · rw [writes.find, if_neg other.symm]
  · rw [writes.isProfile_iff]
    refine not_isProfile_putDealer_of_former sound has ?_
    rw [writes.named, Option.some_inj]
    exact fun both => other both.2.symm

/-- The three accounts that can have changed. -/
theorem WritesDealer.coherent_iff (writes : next.WritesDealer store dealer profile)
    (sound : store.Sound settings) (coherent : store.Coherent settings)
    (distinct : next.Distinct) :
    next.Coherent settings ↔
      (profile.deletedAt = none →
        (∃ login, next.findLogin profile.id = some login ∧ login.IsOf settings profile) ∧
        (profile.type = .dealer ↔ dealer.deletedAt = none) ∧
        (profile.type = .worker ↔ profile.dealerId ≠ none)) ∧
      store.LeavesNobody dealer.id profile.id ∧
      (profile.id ≠ dealer.id → next.WholeAt settings dealer.id) := by
  rw [coherent_iff_of_sameAt
    (fun id => id = profile.id ∨ id = dealer.id ∨ store.HasProfile dealer.id id) coherent
    (fun id same => writes.sameAt (fun is => same (Or.inl is)) (fun is => same (Or.inr (Or.inl is)))
      fun has => same (Or.inr (Or.inr has))) distinct]
  have found : next.providers.find profile.id = some profile := by rw [writes.find, if_pos rfl]
  have own : next.WholeAt settings profile.id ↔ (profile.deletedAt = none →
      (∃ login, next.findLogin profile.id = some login ∧ login.IsOf settings profile) ∧
        (profile.type = .dealer ↔ dealer.deletedAt = none) ∧
        (profile.type = .worker ↔ profile.dealerId ≠ none)) := by
    rw [wholeAt_iff found, ← writes.isProfile_profile_iff]
    exact imp_congr_right fun _ => ⟨fun whole => ⟨whole.login, whole.dealer, whole.worker⟩,
      fun whole => ⟨whole.1, whole.2.1, whole.2.2⟩⟩
  rw [← own]
  constructor
  · intro whole
    refine ⟨whole profile.id (Or.inl rfl), ?_, fun _ => whole dealer.id (Or.inr (Or.inl rfl))⟩
    intro stored former there active named other
    have has : store.HasProfile dealer.id former := ⟨stored, there, active, named⟩
    exact (writes.wholeAt_former_iff sound coherent has other).mp
      (whole former (Or.inr (Or.inr has)))
  · rintro ⟨ofProfile, leaves, ofDealer⟩ id (rfl | rfl | has)
    · exact ofProfile
    · by_cases same : profile.id = dealer.id
      · rw [← same]
        exact ofProfile
      · exact ofDealer same
    · by_cases same : id = profile.id
      · rw [same]
        exact ofProfile
      · obtain ⟨stored, there, active, named⟩ := has
        exact (writes.wholeAt_former_iff sound coherent ⟨stored, there, active, named⟩ same).mpr
          (leaves stored id there active named same)

end WritesDealer

theorem deletedAt_dealerWith_iff (store : Store) (id : Uuid) (profileId : Option Uuid) :
    (store.dealerWith id profileId).deletedAt = none ↔
      ∀ dealer, store.dealers.find id = some dealer → dealer.deletedAt = none := by
  unfold dealerWith
  cases store.dealers.find id <;> simp

theorem profileId_dealerWith_some (store : Store) (id profileId : Uuid) :
    (store.dealerWith id (some profileId)).profileId = some profileId := by
  unfold dealerWith
  split <;> rfl

theorem isTaken_eq_false_iff (store : Store) (profileId id : Uuid) :
    store.isTaken profileId id = false ↔
      ∀ other ∈ store.dealers.rows, other.id ≠ id → other.profileId ≠ some profileId := by
  simp [isTaken, List.any_eq_false]

theorem WritesDealer.distinct {dealer : Dealer} {profile : ServiceProvider}
    (writes : next.WritesDealer store dealer profile)
    (distinct : (store.putProvider profile).Distinct) : next.Distinct := by
  rw [Distinct, writes.providers]
  exact distinct

/-- The login an operation on a dealer writes is right for a profile with its names exactly if that
is a dealer's. -/
theorem isOf_dealer_iff {dto : DealerDto} (id : Uuid) {provider : ServiceProvider}
    {login : UserLogin} (phone : provider.phoneNumber = stripPhoneNumber dto.profile.phoneNumber)
    (email : provider.emailAddress = settings.toLowerCase dto.profile.emailAddress)
    (username : login.username = (DealerService.login settings dto id).username)
    (secondary : login.secondaryUsername =
      some (DealerService.login settings dto id).secondaryUsername)
    (groups : login.groups = (DealerService.login settings dto id).groups) :
    login.IsOf settings provider ↔ provider.type = .dealer := by
  rw [UserLogin.IsOf, phone, email, settings.toLowerCase_toLowerCase, username, secondary, groups,
    DealerService.login, List.singleton_inj]
  simp only [true_and, eq_comm]

/-- A dealer may be saved with any profile that is there and that no other dealer has. -/
theorem Sound.putDealerWith (sound : store.Sound settings) (id profileId : Uuid)
    (present : store.providers.find profileId ≠ none)
    (free : ∀ other ∈ store.dealers.rows, other.id ≠ id → other.profileId ≠ some profileId) :
    (store.putDealer (store.dealerWith id (some profileId))).Sound settings := by
  refine sound.putDealer fun other named => ?_
  rw [profileId_dealerWith_some, Option.some_inj] at named
  rw [← named, id_dealerWith]
  exact ⟨present, free⟩

/-- The row of a dealer can be saved without its profile, or as another state of the dealer. -/
theorem Sound.putDealer_of_profileId (sound : store.Sound settings) {dealer : Dealer}
    (same : ∀ id, dealer.profileId = some id →
      ∃ stored, store.dealers.find dealer.id = some stored ∧ stored.profileId = some id) :
    (store.putDealer dealer).Sound settings := by
  refine sound.putDealer fun id named => ?_
  obtain ⟨stored, found, storedNamed⟩ := same id named
  obtain ⟨member, isId⟩ := store.dealers.find_key found
  refine ⟨sound.profiles stored member id storedNamed, fun other otherMember different has => ?_⟩
  rw [sound.single other otherMember stored member id has storedNamed] at different
  exact different isId

/-! ### Creating a dealer -/

/-- A dealer is saved with the profile that has just been inserted for it. -/
theorem carryOut_saveDealer_inserted (sound : store.Sound settings) {user : ProfileDto} {id : Uuid}
    {type : ServiceProviderType} (named : user.id = some id) (given : user.type = some type)
    (absent : store.providers.find id = none) (hasDealer : store.hasDealer user.dealer = true)
    (last : AccountCommand) (reach : Nat) :
    carryOut [saveDealer id user, last] reach (store.putProvider (user.over id none)) =
      if 0 < reach then
        carryOut [last] (reach - 1)
          ((store.putProvider (user.over id none)).putDealer (store.dealerWith id (some id)))
      else store.putProvider (user.over id none) := by
  have inserted : (store.putProvider (user.over id none)).providers.find id =
      some (user.over id none) :=
    find_putProvider_self store (user.over id none)
  have again : (store.putProvider (user.over id none)).withDealer id user (user.over id none) =
      (store.putProvider (user.over id none)).putDealer (store.dealerWith id (some id)) := by
    have saved : user.over (user.over id none).id (some (user.over id none)) = user.over id none :=
      ProfileDto.over_over given id
    rw [withDealer, named, saved, Store.putProvider]
    show Store.mk _ _ _ = Store.mk _ _ _
    congr 1
    exact (store.putProvider (user.over id none)).providers.save_of_find_eq_some inserted
  have free : (store.putProvider (user.over id none)).isTaken id id = false :=
    (isTaken_eq_false_iff store id id).mpr fun other member _ has =>
      sound.profiles other member id has absent
  have has := hasDealer_putDealer hasDealer (store.dealerWith id (some id))
  rw [carryOut_of_ite (saveDealer_of_stored named inserted id), again]
  refine if_congr (and_iff_left ⟨free, ?_⟩) rfl rfl
  rw [named]
  exact has

/-- A dealer is saved with a profile that is new. -/
theorem WritesDealer.coherent_inserted_iff {profile : ServiceProvider}
    (writes : next.WritesDealer store (store.dealerWith profile.id (some profile.id)) profile)
    (sound : store.Sound settings) (coherent : store.Coherent settings)
    (distinct : next.Distinct) (absent : store.providers.find profile.id = none)
    (active : profile.deletedAt = none) (type : profile.type = .dealer) :
    next.Coherent settings ↔
      profile.dealerId = none ∧
      (∃ login, next.findLogin profile.id = some login ∧ login.IsOf settings profile) ∧
      ∀ dealer, store.dealers.find profile.id = some dealer → dealer.deletedAt = none ∧
        ∀ profileId, dealer.profileId = some profileId → ¬store.IsActive profileId := by
  rw [writes.coherent_iff sound coherent distinct, forall_prop_of_true active, type, id_dealerWith,
    deletedAt_dealerWith_iff]
  constructor
  · rintro ⟨⟨login, dealer, worker⟩, leaves, -⟩
    have unplaced : profile.dealerId = none := by
      by_contra placed
      cases worker.mpr placed
    refine ⟨unplaced, login, fun stored found => ?_⟩
    have there := dealer.mp rfl stored found
    refine ⟨there, fun former named isActive => ?_⟩
    by_cases same : former = profile.id
    · obtain ⟨provider, present, -⟩ := isActive
      rw [same, absent] at present
      cases present
    · exact leaves stored former found there named same isActive
  · rintro ⟨unplaced, login, dealer⟩
    refine ⟨⟨login, iff_of_true rfl fun stored found => (dealer stored found).1,
      iff_of_false (by decide) fun placed => placed unplaced⟩, ?_, fun other => absurd rfl other⟩
    intro stored former found _ named _
    exact (dealer stored found).2 former named

theorem writesDealer_of_inserted (sound : store.Sound settings) {profile : ServiceProvider}
    (absent : store.providers.find profile.id = none)
    (providers : next.providers = (store.putProvider profile).providers)
    (dealers : next.dealers =
      (store.putDealer (store.dealerWith profile.id (some profile.id))).dealers)
    (logins : ∀ other, other ≠ profile.id →
      next.logins.find (.provider, other) = store.logins.find (.provider, other)) :
    next.WritesDealer store (store.dealerWith profile.id (some profile.id)) profile where
  providers := providers
  dealers := dealers
  logins := by
    rw [id_dealerWith]
    exact logins
  named := profileId_dealerWith_some store profile.id profile.id
  single := fun other member _ has => sound.profiles other member profile.id has absent

/-- Once a new profile and its dealer have been saved, their login decides. -/
theorem coherent_createUserLogin_inserted_iff (sound : store.Sound settings)
    (coherent : store.Coherent settings) {dto : DealerDto} {profile : ServiceProvider}
    (absent : store.providers.find profile.id = none) (active : profile.deletedAt = none)
    (isDealer : profile.type = .dealer)
    (phone : profile.phoneNumber = stripPhoneNumber dto.profile.phoneNumber)
    (email : profile.emailAddress = settings.toLowerCase dto.profile.emailAddress)
    (distinct : (store.putProvider profile).Distinct) (reach : Nat) :
    (carryOut [createUserLogin settings.hash (DealerService.login settings dto profile.id)] reach
        ((store.putProvider profile).putDealer
          (store.dealerWith profile.id (some profile.id)))).Coherent settings ↔
      profile.dealerId = none ∧
      store.Creates (DealerService.login settings dto profile.id) reach ∧
      ∀ dealer, store.dealers.find profile.id = some dealer → dealer.deletedAt = none ∧
        ∀ profileId, dealer.profileId = some profileId → ¬store.IsActive profileId := by
  generalize isSaved : (store.putProvider profile).putDealer
    (store.dealerWith profile.id (some profile.id)) = saved
  have providers : saved.providers = (store.putProvider profile).providers := by
    rw [← isSaved]
    rfl
  have dealers : saved.dealers =
      (store.putDealer (store.dealerWith profile.id (some profile.id))).dealers := by
    rw [← isSaved]
    rfl
  have logins : saved.logins = store.logins := by
    rw [← isSaved]
    rfl
  have same : saved.Creates (DealerService.login settings dto profile.id) reach ↔
      store.Creates (DealerService.login settings dto profile.id) reach := by
    rw [Creates, Creates, namesAreFree, namesAreFree, logins]
  obtain ⟨creates, password, does⟩ | ⟨refuses, does⟩ := createUserLogin_cases settings.hash
    (DealerService.login settings dto profile.id) reach saved
  · rw [does]
    generalize isLogin : (DealerService.login settings dto profile.id).create settings.hash
      password = login
    have owner : login.owner = (.provider, profile.id) := by
      rw [← isLogin]
      rfl
    have written : (saved.putLogin login).WritesDealer store
        (store.dealerWith profile.id (some profile.id)) profile := by
      refine writesDealer_of_inserted sound absent providers dealers fun other different => ?_
      rw [(sameAt_of_owner owner different).login, logins]
    have signsIn := findLogin_putLogin_self saved owner (by rw [← isLogin]; rfl)
    have names : login.IsOf settings profile := by
      refine (isOf_dealer_iff profile.id phone email ?_ ?_ ?_).mpr isDealer
      all_goals
        rw [← isLogin]
        rfl
    rw [written.coherent_inserted_iff sound coherent (written.distinct distinct) absent active
      isDealer]
    exact and_congr_right fun _ => and_congr_left fun _ =>
      iff_of_true ⟨login, signsIn, names⟩ (same.mp creates)
  · rw [does]
    have written : saved.WritesDealer store
        (store.dealerWith profile.id (some profile.id)) profile :=
      writesDealer_of_inserted sound absent providers dealers fun other _ => by rw [logins]
    rw [written.coherent_inserted_iff sound coherent (written.distinct distinct) absent active
      isDealer]
    refine iff_of_false (fun whole => ?_) fun both => refuses (same.mpr both.2.1)
    obtain ⟨login, there, -⟩ := whole.2.1
    rw [findLogin, logins] at there
    cases (findLogin_of_find_eq_none sound absent).symm.trans there

theorem createDealer_iff (sound : store.Sound settings) (coherent : store.Coherent settings)
    (drawn : Drawn) (dto : DealerDto) (reach : Nat) :
    (carryOut (DealerService.createOne settings drawn dto) reach store).Coherent settings ↔
      store.CreatesWholeDealer settings drawn dto reach := by
  rw [carryOut_createDealer]
  by_cases inserts : store.Writes (DealerService.insertedProfile settings drawn dto) none reach ∧
      store.providers.find (dto.profile.id.getD drawn.id) = none
  swap
  · rw [if_neg inserts]
    exact iff_of_true coherent fun writes absent => absurd ⟨writes, absent⟩ inserts
  rw [if_pos inserts, CreatesWholeDealer, forall_prop_of_true inserts.1,
    forall_prop_of_true inserts.2]
  obtain ⟨⟨-, admits, hasDealer⟩, absent⟩ := inserts
  have named : (DealerService.insertedProfile settings drawn dto).id =
    some (dto.profile.id.getD drawn.id) := rfl
  have phone : (DealerService.insertedProfile settings drawn dto).phoneNumber =
    stripPhoneNumber dto.profile.phoneNumber := rfl
  have email : (DealerService.insertedProfile settings drawn dto).emailAddress =
    settings.toLowerCase dto.profile.emailAddress := rfl
  have type : (DealerService.insertedProfile settings drawn dto).type = some .dealer := rfl
  have reference : (DealerService.insertedProfile settings drawn dto).dealer =
    dto.profile.dealer := rfl
  generalize dto.profile.id.getD drawn.id = id at named absent ⊢
  generalize DealerService.insertedProfile settings drawn dto = user at *
  have isId : (user.over id none).id = id := rfl
  have free := admits.free_over (by simp) isId rfl rfl
  rw [carryOut_saveDealer_inserted sound named type absent hasDealer]
  by_cases several : 0 < reach - 3
  · have unplaced : (user.over id none).dealerId = none ↔ dto.profile.dealer.isGiven = false := by
      rw [← reference, ProfileDto.dealerId_over]
      cases user.dealer <;> simp [Reference.over, Reference.isGiven]
    have isDealer : (user.over id none).type = .dealer := by
      rw [ProfileDto.type_over, type, Option.getD_some]
    have decides := coherent_createUserLogin_inserted_iff sound coherent absent rfl isDealer
      phone email (coherent.distinct.putProvider free) (reach - 3 - 1)
    rw [if_pos several, ← unplaced]
    exact decides
  · rw [if_neg several, coherent_putProvider_iff coherent free]
    refine iff_of_false (fun whole => ?_) fun both => several ?_
    · obtain ⟨login, there, -⟩ := (whole rfl).login
      cases (findLogin_of_find_eq_none sound absent).symm.trans there
    · have reaches := both.2.1.1
      omega

theorem Sound.createDealer (sound : store.Sound settings) (drawn : Drawn) (dto : DealerDto)
    (reach : Nat) :
    (carryOut (DealerService.createOne settings drawn dto) reach store).Sound settings := by
  rw [carryOut_createDealer]
  split
  swap
  · exact sound
  rename_i inserts
  obtain ⟨⟨-, -, hasDealer⟩, absent⟩ := inserts
  have lower : settings.toLowerCase ((DealerService.insertedProfile settings drawn dto).over
      (dto.profile.id.getD drawn.id) none).emailAddress =
      ((DealerService.insertedProfile settings drawn dto).over
        (dto.profile.id.getD drawn.id) none).emailAddress := by
    rw [ProfileDto.emailAddress_over]
    exact settings.toLowerCase_toLowerCase dto.profile.emailAddress
  have inserted := sound.putProvider lower
  have present := find_putProvider_self store
    ((DealerService.insertedProfile settings drawn dto).over (dto.profile.id.getD drawn.id) none)
  rw [carryOut_saveDealer_inserted sound rfl rfl absent hasDealer]
  split
  swap
  · exact inserted
  refine Sound.createUserLogin (inserted.putDealerWith _ _ ?_ ?_) settings.hash ?_ _
  · exact fun missing => by cases present.symm.trans missing
  · intro other member _ has
    exact sound.profiles other member _ has absent
  · exact fun missing => by cases present.symm.trans missing

/-! ### Deleting a dealer -/

theorem deletesWholeDealer_iff {id : Uuid} {reach : Nat} (several : 1 < reach) :
    store.DeletesWholeDealer id reach ↔
      ∀ former, store.HasProfile id former → store.IsActive former → former = id ∧ 3 < reach := by
  rw [DeletesWholeDealer, forall_prop_of_true several]
  constructor
  · rintro whole former ⟨dealer, found, active, named⟩
    exact whole dealer former found active named
  · intro whole dealer former found active named
    exact whole former ⟨dealer, found, active, named⟩

/-- Nothing but the dealer is deleted. -/
theorem coherent_putDealer_iff_of_deleted (sound : store.Sound settings)
    (coherent : store.Coherent settings) {dealer : Dealer} (deleted : dealer.deletedAt ≠ none) :
    (store.putDealer dealer).Coherent settings ↔
      ∀ former, store.HasProfile dealer.id former → ¬store.IsActive former := by
  have lost (former : Uuid) : ¬(dealer.deletedAt = none ∧ dealer.profileId = some former) :=
    fun both => deleted both.1
  have distinct : (store.putDealer dealer).Distinct := coherent.distinct
  rw [coherent_iff_of_sameAt (store.HasProfile dealer.id) coherent
    (fun id never => sameAt_putDealer (lost id) never) distinct]
  exact forall₂_congr fun former has => wholeAt_former_iff coherent has.isProfile rfl
    (not_isProfile_putDealer_of_former sound has (lost former))

/-- The provider with the identifier of the dealer is deleted with it. -/
theorem coherent_deleted_iff (sound : store.Sound settings) (coherent : store.Coherent settings)
    {dealer : Dealer} (deleted : dealer.deletedAt ≠ none) (distinct : next.Distinct)
    (others : ∀ id, id ≠ dealer.id → next.SameAt (store.putDealer dealer) id)
    (inactive : ¬next.IsActive dealer.id) :
    next.Coherent settings ↔
      ∀ former, store.HasProfile dealer.id former → former ≠ dealer.id →
        ¬store.IsActive former := by
  have lost (former : Uuid) : ¬(dealer.deletedAt = none ∧ dealer.profileId = some former) :=
    fun both => deleted both.1
  rw [coherent_iff_of_sameAt (fun id => id = dealer.id ∨ store.HasProfile dealer.id id) coherent
    (fun id same => (others id fun is => same (Or.inl is)).trans
      (sameAt_putDealer (lost id) fun has => same (Or.inr has))) distinct]
  have ofFormer (former : Uuid) (has : store.HasProfile dealer.id former)
      (other : former ≠ dealer.id) : next.WholeAt settings former ↔ ¬store.IsActive former := by
    refine wholeAt_former_iff coherent has.isProfile (others former other).provider ?_
    rw [(others former other).profile]
    exact not_isProfile_putDealer_of_former sound has (lost former)
  constructor
  · intro whole former has other
    exact (ofFormer former has other).mp (whole former (Or.inr has))
  · rintro inactives id (rfl | has)
    · exact wholeAt_of_not_isActive inactive
    · by_cases other : id = dealer.id
      · rw [other]
        exact wholeAt_of_not_isActive inactive
      · exact (ofFormer id has other).mpr (inactives id has other)

/-- The dealer and the provider are deleted, and perhaps the login of the provider is. -/
theorem coherent_deletedBoth_iff (sound : store.Sound settings) (coherent : store.Coherent settings)
    {dealer : Dealer} {provider : ServiceProvider} (deleted : dealer.deletedAt ≠ none)
    (providerDeleted : provider.deletedAt ≠ none) (sameId : provider.id = dealer.id)
    (others : ∀ id, id ≠ dealer.id →
      next.SameAt ((store.putDealer dealer).putProvider provider) id)
    (providers : next.providers = ((store.putDealer dealer).putProvider provider).providers) :
    next.Coherent settings ↔
      ∀ former, store.HasProfile dealer.id former → store.IsActive former → former = dealer.id := by
  have inactive : ¬next.IsActive dealer.id := by
    rintro ⟨other, there, isActive⟩
    rw [providers, find_putProvider, if_pos sameId] at there
    cases there
    exact providerDeleted isActive
  have distinct : next.Distinct := by
    rw [Distinct, providers]
    exact coherent.distinct.putProvider fun isActive => absurd isActive providerDeleted
  rw [coherent_deleted_iff sound coherent deleted distinct (fun id other =>
    (others id other).trans (sameAt_putProvider _ (sameId.symm ▸ other))) inactive]
  refine forall₂_congr fun former _ => ?_
  constructor
  · intro never isActive
    by_contra other
    exact never other isActive
  · intro only other isActive
    exact other (only isActive)

theorem deleteDealer_iff (sound : store.Sound settings) (coherent : store.Coherent settings)
    (drawn : Drawn) (id : Uuid) (reach : Nat) :
    (carryOut (DealerService.softDeleteOne drawn id) reach store).Coherent settings ↔
      store.DeletesWholeDealer id reach := by
  obtain ⟨dealer, several, found, active, does⟩ | ⟨stays, does⟩ :=
    carryOut_softDeleteDealer_cases drawn id reach store
  swap
  · rw [does]
    exact iff_of_true coherent fun several dealer _ found active =>
      absurd several (stays dealer found active)
  rw [does, deletesWholeDealer_iff several]
  obtain ⟨-, rfl⟩ := store.dealers.find_key found
  have deleted : ({ dealer with deletedAt := some drawn.deletion.deletedAt } : Dealer).deletedAt ≠
    none := Option.some_ne_none _
  have sameId : ({ dealer with deletedAt := some drawn.deletion.deletedAt } : Dealer).id =
    dealer.id := rfl
  rw [← sameId]
  generalize ({ dealer with deletedAt := some drawn.deletion.deletedAt } : Dealer) = gone at *
  obtain ⟨provider, more, present, signedIn, result⟩ | ⟨nobody, result⟩ :=
    carryOut_softDeleteProvider_cases drawn gone.id (reach - 2) (store.putDealer gone)
  · have reaches : 3 < reach := by omega
    have isDeleted : ({ provider with deletedAt := some drawn.deletion.deletedAt } :
      ServiceProvider).deletedAt ≠ none := Option.some_ne_none _
    have sameProvider : ({ provider with deletedAt := some drawn.deletion.deletedAt } :
      ServiceProvider).id = gone.id := (store.providers.find_key present).2
    rw [result]
    simp only [and_iff_left reaches]
    generalize ({ provider with deletedAt := some drawn.deletion.deletedAt } :
      ServiceProvider) = last at *
    obtain refuses | ⟨login, there, written⟩ := deleteUserLogin_cases gone.id drawn.deletion
      (reach - 2 - 2) ((store.putDealer gone).putProvider last)
    · rw [refuses]
      exact coherent_deletedBoth_iff sound coherent deleted isDeleted sameProvider
        (fun id _ => SameAt.refl _ id) rfl
    · rw [written]
      refine coherent_deletedBoth_iff sound coherent deleted isDeleted sameProvider
        (fun id other => sameAt_of_owner ?_ other) rfl
      show login.owner = (.provider, gone.id)
      exact store.owner_of_findLogin there
  · rw [result, coherent_putDealer_iff_of_deleted sound coherent deleted]
    refine forall₂_congr fun former has => ⟨fun never isActive => absurd isActive never, ?_⟩
    rintro only ⟨provider, there, isActive⟩
    obtain ⟨rfl, more⟩ := only ⟨provider, there, isActive⟩
    exact nobody provider there isActive (by omega)

theorem Sound.deleteDealer (sound : store.Sound settings) (drawn : Drawn) (id : Uuid)
    (reach : Nat) :
    (carryOut (DealerService.softDeleteOne drawn id) reach store).Sound settings := by
  obtain ⟨dealer, -, found, -, does⟩ | ⟨-, does⟩ :=
    carryOut_softDeleteDealer_cases drawn id reach store
  · rw [does]
    refine Sound.deleteProvider (sound.putDealer_of_profileId fun other named => ?_) drawn id
      (reach - 2)
    refine ⟨dealer, ?_, named⟩
    rw [← found]
    exact congrArg store.dealers.find (store.dealers.find_key found).2
  · rwa [does]

end Store

end FieldService.Accounts
