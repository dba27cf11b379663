/-
This file proves that replacing a dealer keeps the accounts coherent exactly under its condition.

A dealer is replaced by its own identifier and its profile by the profile's, and the login that is
updated is the one with the identifier of the dealer. Where the two identifiers differ, or none is
given for the profile, a login can get the names of somebody else.
-/

import FieldService.Accounts.Dealers

namespace FieldService.Accounts

open Auth Commands Execution

namespace Store

variable {settings : AccountSettings} {store next : Store}

/-! ### Replacing a dealer -/

/-- An account whose login has been given names that the checks have admitted for another is whole
only when it is not active. -/
theorem Admits.wholeAt_iff {phoneNumber emailAddress : String} {ignored : Option Uuid} {id : Uuid}
    (admits : store.Admits phoneNumber emailAddress ignored) (others : ignored ≠ some id)
    {login : UserLogin} (there : next.findLogin id = some login)
    (username : login.username = phoneNumber)
    (same : next.providers.find id = store.providers.find id) :
    next.WholeAt settings id ↔ ¬store.IsActive id := by
  constructor
  · rintro whole ⟨provider, found, active⟩
    obtain ⟨⟨own, signsIn, names⟩, -, -⟩ := whole provider (same.trans found) active
    rw [(store.providers.find_key found).2, there] at signsIn
    cases signsIn
    exact admits.phoneNumber_ne found active others (names.1.symm.trans username)
  · rintro inactive provider found active
    exact absurd ⟨provider, same.symm.trans found, active⟩ inactive

/-- A dealer that is saved without a profile keeps the one it has. -/
theorem sameAt_putDealer_dealerWith_none (store : Store) (id other : Uuid) :
    (store.putDealer (store.dealerWith id none)).SameAt store other := by
  refine ⟨rfl, rfl, ?_⟩
  cases found : store.dealers.find id with
  | none =>
    have new : store.dealerWith id none = ⟨id, none, none⟩ := by
      rw [dealerWith, found]
    rw [new]
    refine isProfile_putDealer_of_other (fun both => by cases both.2) ?_
    rintro ⟨dealer, there, -⟩
    rw [found] at there
    cases there
  | some dealer =>
    have same : store.dealerWith id none = dealer := by
      rw [dealerWith, found]
      rfl
    have there : store.dealers.find dealer.id = some dealer := by
      rw [(store.dealers.find_key found).2, found]
    have unchanged : store.putDealer dealer = store := by
      have rows := store.dealers.save_of_find_eq_some there
      rw [putDealer, rows]
    rw [same, unchanged]

/-- The login that an operation on a dealer leaves, after the dealer has been saved. -/
theorem updateUserLogin_iff {input : UserLoginDto} {reach : Nat} (hash : String → String)
    (logins : next.logins = store.logins) (property : Store → Prop) (result : Prop)
    (updates : ∀ login : UserLogin, store.Updates input reach →
      login.owner = (.provider, input.userId) → login.deletion = none →
      login.username = input.username → login.secondaryUsername = some input.secondaryUsername →
      login.groups = input.groups → (property (next.putLogin login) ↔ result))
    (refuses : ¬store.Updates input reach → (property next ↔ result)) :
    property (carryOut [updateUserLogin hash input] reach next) ↔ result := by
  have same : next.Updates input reach ↔ store.Updates input reach := by
    rw [Updates, Updates, findLogin, findLogin, namesAreFree, namesAreFree, logins]
  obtain ⟨does, login, there, written⟩ | ⟨fails, written⟩ :=
    updateUserLogin_cases hash input reach next
  · rw [written]
    refine updates _ (same.mp does) ?_ ?_ rfl rfl rfl
    · show login.owner = (.provider, input.userId)
      exact next.owner_of_findLogin there
    · show login.deletion = none
      exact ((next.findLogin_eq_some_iff _ _).mp there).2
  · rw [written]
    exact refuses (mt same.mpr fails)

theorem replaceDealer_iff_of_id_eq_none (coherent : store.Coherent settings) {id : Uuid}
    {profile : ProfileDto} (named : profile.id = none)
    (admits : store.Admits profile.phoneNumber profile.emailAddress profile.id)
    {input : UserLoginDto} (owner : input.userId = id)
    (username : input.username = profile.phoneNumber) {reach : Nat} (several : 2 < reach) :
    (carryOut [saveDealer id profile, updateUserLogin settings.hash input] (reach - 2)
        store).Coherent settings ↔
      (store.IsActive id → ¬store.Updates input (reach - 3)) := by
  have does : saveDealer id profile store = .ok (store.putDealer (store.dealerWith id none)) := by
    simp only [saveDealer, named]
  rw [carryOut_of_ok does, if_pos (by omega), Nat.sub_sub]
  have same := sameAt_putDealer_dealerWith_none store id
  have distinct : (store.putDealer (store.dealerWith id none)).Distinct := coherent.distinct
  subst owner
  refine updateUserLogin_iff settings.hash (logins_putDealer _ _) (·.Coherent settings) _ ?_ ?_
  · intro login updates owner signsIn phone _ _
    have changed := coherent_iff_of_sameAt (· = input.userId) coherent (fun other different =>
      (sameAt_of_owner owner different).trans (same other)) distinct
    have signedIn := findLogin_putLogin_self
      (store.putDealer (store.dealerWith input.userId none)) owner signsIn
    rw [changed, forall_eq, admits.wholeAt_iff (by rw [named]; simp) signedIn
      (phone.trans username) rfl]
    exact ⟨fun inactive active => absurd active inactive, fun only active => only active updates⟩
  · intro refuses
    refine iff_of_true ?_ fun _ => refuses
    exact (coherent_iff_of_sameAt (fun _ => False) coherent (fun other _ => same other)
      distinct).mpr fun _ impossible => impossible.elim

/-- The account of another provider with the identifier of the dealer that is written. -/
theorem WritesDealer.wholeAt_dealer {dealer : Dealer} {profile : ServiceProvider}
    (writes : next.WritesDealer store dealer profile) (coherent : store.Coherent settings)
    (leaves : store.LeavesNobody dealer.id profile.id)
    (login : next.logins.find (.provider, dealer.id) = store.logins.find (.provider, dealer.id))
    (other : dealer.id ≠ profile.id) : next.WholeAt settings dealer.id := by
  have same : next.providers.find dealer.id = store.providers.find dealer.id := by
    rw [writes.find, if_neg other.symm]
  by_cases has : store.HasProfile dealer.id dealer.id
  · obtain ⟨stored, found, active, named⟩ := has
    have inactive := leaves stored dealer.id found active named other
    intro provider there providerActive
    exact absurd ⟨provider, same.symm.trans there, providerActive⟩ inactive
  · refine SameAt.wholeAt ⟨same, login, ?_⟩
      (((Store.coherent_iff settings store).mp coherent).1 dealer.id)
    rw [writes.isProfile_iff]
    refine isProfile_putDealer_of_other ?_ has
    rw [writes.named, Option.some_inj]
    exact fun both => other both.2.symm

/-- What a dealer and its stored profile become is coherent once it is known what becomes of the
login of the profile and of the account with the identifier of the dealer. -/
theorem WritesDealer.coherent_replaced_iff {dealer : Dealer} {profile stored : ServiceProvider}
    (written : next.WritesDealer store dealer profile) (sound : store.Sound settings)
    (coherent : store.Coherent settings) (distinct : next.Distinct)
    (deletedAt : dealer.deletedAt = none ↔
      ∀ other, store.dealers.find dealer.id = some other → other.deletedAt = none)
    (kept : profile.deletedAt = stored.deletedAt) {updated untouched : Prop}
    (login : stored.deletedAt = none →
      ((∃ login, next.findLogin profile.id = some login ∧ login.IsOf settings profile) ↔
        (updated → profile.type = .dealer) ∧ (¬updated → profile.KeepsNames stored)))
    (ofDealer : store.LeavesNobody dealer.id profile.id → profile.id ≠ dealer.id →
      (next.WholeAt settings dealer.id ↔ untouched)) :
    next.Coherent settings ↔
      store.LeavesNobody dealer.id profile.id ∧
      (stored.deletedAt = none → store.FitsDealer dealer.id profile stored updated) ∧
      (profile.id ≠ dealer.id → untouched) := by
  rw [written.coherent_iff sound coherent distinct, and_left_comm, kept]
  refine and_congr_right fun leaves => and_congr ?_ ?_
  · refine imp_congr_right fun active => ?_
    rw [login active, deletedAt]
    exact ⟨fun whole => ⟨whole.2.1, whole.2.2, whole.1⟩,
      fun fits => ⟨fits.login, fits.dealer, fits.worker⟩⟩
  · exact imp_congr_right fun other => ofDealer leaves other

/-- The login of the profile is the one that is updated exactly if the dealer has the identifier of
the profile. -/
theorem signsIn_updated_iff (sound : store.Sound settings) (coherent : store.Coherent settings)
    {dto : DealerDto} {id : Uuid} {profile stored : ServiceProvider}
    (found : store.providers.find profile.id = some stored) (active : stored.deletedAt = none)
    (phone : profile.phoneNumber = stripPhoneNumber dto.profile.phoneNumber)
    (email : profile.emailAddress = settings.toLowerCase dto.profile.emailAddress)
    (logins : next.logins = store.logins) {login : UserLogin}
    (owner : login.owner = (.provider, id)) (signsIn : login.deletion = none)
    (username : login.username = (DealerService.login settings dto id).username)
    (secondary : login.secondaryUsername =
      some (DealerService.login settings dto id).secondaryUsername)
    (groups : login.groups = (DealerService.login settings dto id).groups) :
    (∃ login', (next.putLogin login).findLogin profile.id = some login' ∧
        login'.IsOf settings profile) ↔
      (profile.id = id → profile.type = .dealer) ∧
      (profile.id ≠ id → profile.KeepsNames stored) := by
  by_cases same : profile.id = id
  · have signedIn := findLogin_putLogin_self next owner signsIn
    rw [← isOf_dealer_iff id phone email username secondary groups, same]
    constructor
    · rintro ⟨other, there, isOf⟩
      cases signedIn.symm.trans there
      exact ⟨fun _ => isOf, fun other => absurd rfl other⟩
    · rintro ⟨isOf, -⟩
      exact ⟨login, signedIn, isOf rfl⟩
  · have lower : settings.toLowerCase profile.emailAddress = profile.emailAddress := by
      rw [email, settings.toLowerCase_toLowerCase]
    have kept : (next.putLogin login).findLogin profile.id = store.findLogin profile.id := by
      rw [findLogin, (sameAt_of_owner owner same).login, logins, findLogin]
    rw [kept, signsIn_iff_keepsNames sound coherent found active lower]
    exact ⟨fun keeps => ⟨fun is => absurd is same, fun _ => keeps⟩, fun both => both.2 same⟩

theorem replaceDealer_iff_of_stored (sound : store.Sound settings)
    (coherent : store.Coherent settings) {id profileId : Uuid} {dto : DealerDto}
    {profile : ProfileDto} {stored : ServiceProvider}
    (phone : profile.phoneNumber = stripPhoneNumber dto.profile.phoneNumber)
    (email : profile.emailAddress = settings.toLowerCase dto.profile.emailAddress)
    (named : profile.id = some profileId)
    (found : store.providers.find profileId = some stored)
    (saves : store.SavesDealer id profile profileId)
    (admits : store.Admits profile.phoneNumber profile.emailAddress profile.id)
    {reach : Nat} (several : 2 < reach) :
    (carryOut [saveDealer id profile,
        updateUserLogin settings.hash (DealerService.login settings dto id)] (reach - 2)
        store).Coherent settings ↔
      store.LeavesNobody id profileId ∧
      (stored.deletedAt = none → store.FitsDealer id (profile.over profileId (some stored)) stored
        (profileId = id ∧ store.Updates (DealerService.login settings dto id) (reach - 3))) ∧
      (profileId ≠ id → store.IsActive id →
        ¬store.Updates (DealerService.login settings dto id) (reach - 3)) := by
  rw [carryOut_of_ok ((saveDealer_of_stored named found id).trans (if_pos saves)),
    if_pos (by omega), Nat.sub_sub]
  have isStored : stored.id = profileId := (store.providers.find_key found).2
  have isId : (profile.over profileId (some stored)).id = profileId := isStored
  have isDealer : (store.dealerWith id profile.id).id = id := store.id_dealerWith id profile.id
  have deletedAt := deletedAt_dealerWith_iff store id profile.id
  have kept : (profile.over profileId (some stored)).deletedAt = stored.deletedAt := rfl
  have phoneNumber := profile.phoneNumber_over profileId (some stored)
  have emailAddress := profile.emailAddress_over profileId (some stored)
  have free := admits.free_over (by rw [named]; simp [eq_comm]) isId phoneNumber emailAddress
  have holds : (store.dealerWith id profile.id).profileId = some profileId := by
    rw [named]
    exact profileId_dealerWith_some store id profileId
  have single := (isTaken_eq_false_iff store profileId id).mp saves.1
  rw [withDealer, isStored]
  generalize profile.over profileId (some stored) = next at *
  generalize store.dealerWith id profile.id = dealer at *
  subst isId isDealer
  generalize isSaved : (store.putDealer dealer).putProvider next = saved
  have logins : saved.logins = store.logins := by
    rw [← isSaved]
    rfl
  have writes (last : Store) (providers : last.providers = saved.providers)
      (dealers : last.dealers = saved.dealers)
      (logins : ∀ other, other ≠ dealer.id →
        last.logins.find (.provider, other) = store.logins.find (.provider, other)) :
      last.WritesDealer store dealer next := by
    rw [← isSaved] at providers dealers
    exact ⟨providers, dealers, logins, holds, single⟩
  have distinct := coherent.distinct.putProvider free
  refine updateUserLogin_iff settings.hash logins (·.Coherent settings) _ ?_ ?_
  · intro login updates owner signsIn username secondary groups
    have written := writes (saved.putLogin login) rfl rfl fun other different => by
      rw [(sameAt_of_owner owner different).login, logins]
    refine written.coherent_replaced_iff sound coherent (written.distinct distinct) deletedAt kept
      (fun active => ?_) fun _ other => ?_
    · rw [signsIn_updated_iff sound coherent found active (phoneNumber.trans phone)
        (emailAddress.trans email) logins owner signsIn username secondary groups,
        and_iff_left updates]
      exact Iff.rfl
    · have foreign : profile.id ≠ some dealer.id := by
        rw [named, Ne, Option.some_inj]
        exact other
      rw [admits.wholeAt_iff foreign (findLogin_putLogin_self saved owner signsIn)
        (username.trans phone.symm) ((written.find dealer.id).trans (if_neg other))]
      exact ⟨fun inactive active => absurd active inactive, fun only active => only active updates⟩
  · intro refuses
    have written := writes saved rfl rfl fun _ _ => by rw [logins]
    refine written.coherent_replaced_iff sound coherent (written.distinct distinct) deletedAt kept
      (fun active => ?_) fun leaves other => ?_
    · have lower : settings.toLowerCase next.emailAddress = next.emailAddress := by
        rw [emailAddress, email, settings.toLowerCase_toLowerCase]
      rw [findLogin, logins, ← findLogin,
        signsIn_iff_keepsNames sound coherent found active lower]
      exact ⟨fun keeps => ⟨fun both => absurd both.2 refuses, fun _ => keeps⟩,
        fun both => both.2 fun updates => refuses updates.2⟩
    · refine iff_of_true (written.wholeAt_dealer coherent leaves ?_ (Ne.symm other))
        fun _ => refuses
      rw [logins]

theorem replaceDealer_iff (sound : store.Sound settings) (coherent : store.Coherent settings)
    (drawn : Drawn) (dto : DealerDto) (reach : Nat) :
    (carryOut (DealerService.replaceOne settings drawn dto) reach store).Coherent settings ↔
      store.ReplacesWholeDealer settings drawn dto reach := by
  rw [DealerService.replaceOne, carryOut_validated, ReplacesWholeDealer]
  have phone : (dto.profile.normalize settings.toLowerCase).phoneNumber =
    stripPhoneNumber dto.profile.phoneNumber := rfl
  have email : (dto.profile.normalize settings.toLowerCase).emailAddress =
    settings.toLowerCase dto.profile.emailAddress := rfl
  have isId : (dto.profile.normalize settings.toLowerCase).id = dto.profile.id := rfl
  rw [← isId]
  generalize dto.profile.normalize settings.toLowerCase = profile at *
  generalize dto.id.getD drawn.id = id
  by_cases several : 2 < reach
  swap
  · have stays : carryOut [saveDealer id profile,
        updateUserLogin settings.hash (DealerService.login settings dto id)] (reach - 2) store =
          store := by
      rw [show reach - 2 = 0 by omega, carryOut_zero]
    rw [stays, ite_self]
    exact iff_of_true coherent fun more => absurd more several
  by_cases admits : store.Admits profile.phoneNumber profile.emailAddress profile.id
  swap
  · rw [if_neg fun both => admits both.2]
    exact iff_of_true coherent fun _ admitted => absurd admitted admits
  rw [if_pos ⟨by omega, admits⟩, forall_prop_of_true several, forall_prop_of_true admits]
  cases named : profile.id with
  | none =>
    have owner : (DealerService.login settings dto id).userId = id := rfl
    have username : (DealerService.login settings dto id).username = profile.phoneNumber :=
      phone.symm
    rw [replaceDealer_iff_of_id_eq_none coherent named admits owner username several]
    simp
  | some profileId =>
    cases found : store.providers.find profileId with
    | none =>
      have throws : saveDealer id profile store = .error .constraintViolated := by
        simp only [saveDealer, named, found]
      rw [carryOut_of_error ⟨_, throws⟩]
      refine iff_of_true coherent ⟨fun missing => (by cases missing), ?_⟩
      intro other stored same present
      cases same
      rw [found] at present
      cases present
    | some stored =>
      by_cases saves : store.SavesDealer id profile profileId
      · rw [replaceDealer_iff_of_stored sound coherent phone email named found saves admits several]
        constructor
        · rintro whole
          refine ⟨fun missing => (by cases missing), fun other provider same present _ => ?_⟩
          cases same
          cases found.symm.trans present
          exact whole
        · rintro ⟨-, whole⟩
          exact whole profileId stored rfl found saves
      · have throws : saveDealer id profile store = .error .constraintViolated :=
          (saveDealer_of_stored named found id).trans (if_neg saves)
        rw [carryOut_of_error ⟨_, throws⟩]
        refine iff_of_true coherent ⟨fun missing => (by cases missing), ?_⟩
        intro other provider same _ saved
        cases same
        exact absurd saved saves

theorem Sound.saveDealer (sound : store.Sound settings) (id : Uuid) {profile : ProfileDto}
    (lower : settings.toLowerCase profile.emailAddress = profile.emailAddress)
    (saves : saveDealer id profile store = .ok next) : next.Sound settings := by
  cases named : profile.id with
  | none =>
    simp only [Accounts.saveDealer, named, Except.ok.injEq] at saves
    rw [← saves]
    refine sound.putDealer_of_profileId fun other has => ?_
    rw [id_dealerWith]
    unfold dealerWith at has
    cases found : store.dealers.find id with
    | none =>
      rw [found] at has
      cases has
    | some stored =>
      rw [found] at has
      exact ⟨stored, rfl, has⟩
  | some profileId =>
    cases found : store.providers.find profileId with
    | none => simp [Accounts.saveDealer, named, found] at saves
    | some stored =>
      rw [saveDealer_of_stored named found] at saves
      split at saves
      swap
      · cases saves
      rename_i allowed
      cases saves
      rw [withDealer, named]
      refine Sound.putProvider (sound.putDealerWith id profileId ?_ ?_) ?_
      · rw [found]
        exact Option.some_ne_none stored
      · exact (isTaken_eq_false_iff store profileId id).mp allowed.1
      · rw [ProfileDto.emailAddress_over]
        exact lower

theorem Sound.replaceDealer (sound : store.Sound settings) (drawn : Drawn) (dto : DealerDto)
    (reach : Nat) :
    (carryOut (DealerService.replaceOne settings drawn dto) reach store).Sound settings := by
  rw [DealerService.replaceOne, carryOut_validated]
  split
  swap
  · exact sound
  cases saves : Accounts.saveDealer (dto.id.getD drawn.id)
    (dto.profile.normalize settings.toLowerCase) store with
  | error error =>
    rw [carryOut_of_error ⟨error, saves⟩]
    exact sound
  | ok next =>
    rw [carryOut_of_ok saves]
    split
    · refine Sound.updateUserLogin (sound.saveDealer _ ?_ saves) settings.hash _ _
      exact settings.toLowerCase_toLowerCase dto.profile.emailAddress
    · exact sound

end Store

end FieldService.Accounts
