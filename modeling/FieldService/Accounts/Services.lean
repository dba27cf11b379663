/-
This file models the accounts of service providers: the profile of a provider, the dealer it belongs
to or is the profile of, and the login it signs in with.

Two services create, replace and delete them, command by command, with nothing around the commands:
what has been written before one fails stays written. Each of the two works out the type of a
provider and the groups of its login on its own. The rest of a profile, which takes no part in
this, is left out.

A profile is saved over the one with its identifier, or as a new one, and a property that is
undefined leaves its column alone.
-/

import FieldService.Auth.Texts
import FieldService.Library.Commands
import FieldService.Library.Table

namespace FieldService.Accounts

open Auth Commands

/-! ### The tables -/

inductive UserType where
  | admin
  | provider
  deriving DecidableEq, Repr

structure ServiceProvider where
  id : Uuid
  phoneNumber : String
  emailAddress : String
  type : ServiceProviderType
  dealerId : Option Uuid
  deletedAt : Option Time
  deriving DecidableEq, Repr

structure Dealer where
  id : Uuid
  profileId : Option Uuid
  deletedAt : Option Time
  deriving DecidableEq, Repr

/-- What is set when a login is deleted. -/
structure Deletion where
  deletedAt : Time
  deletionToken : Uuid
  deriving DecidableEq, Repr

structure UserLogin where
  userType : UserType
  userId : Uuid
  username : String
  secondaryUsername : Option String
  passwordHash : String
  groups : List ServiceProviderType
  deletion : Option Deletion
  deriving DecidableEq, Repr

namespace UserLogin

def owner (login : UserLogin) : UserType × Uuid :=
  (login.userType, login.userId)

/-- The `deletionToken` column, without its default. -/
def deletionToken (login : UserLogin) : Option Uuid :=
  login.deletion.map (·.deletionToken)

end UserLogin

/-- The three tables. A user of a type has one login, deleted or not. -/
structure Store where
  providers : Table Uuid ServiceProvider ServiceProvider.id
  dealers : Table Uuid Dealer Dealer.id
  logins : Table (UserType × Uuid) UserLogin UserLogin.owner

namespace Store

def empty : Store := ⟨.empty, .empty, .empty⟩

variable (store : Store)

def putProvider (provider : ServiceProvider) : Store :=
  { store with providers := store.providers.save provider }

def putDealer (dealer : Dealer) : Store :=
  { store with dealers := store.dealers.save dealer }

def putLogin (login : UserLogin) : Store :=
  { store with logins := store.logins.save login }

end Store

/-! ### The inputs -/

/-- The `dealer` property of a profile: undefined, null, or a dealer. -/
inductive Reference where
  | undefined
  | null
  | dealer (id : Uuid)
  deriving DecidableEq, Repr

namespace Reference

/-- `dto.dealerId || dto.dealer?.id`, where `dealerId` is excluded from what is sent. -/
def isGiven : Reference → Bool
  | .dealer _ => true
  | _ => false

end Reference

/-- The column after saving, over what it held. -/
def Reference.over (stored : Option Uuid) : Reference → Option Uuid
  | .undefined => stored
  | .null => none
  | .dealer id => some id

structure ProfileDto where
  id : Option Uuid
  phoneNumber : String
  emailAddress : String
  type : Option ServiceProviderType
  dealer : Reference
  deriving DecidableEq, Repr

structure ServiceProviderDto extends ProfileDto where
  password : Option String
  deriving DecidableEq, Repr

structure DealerDto where
  id : Option Uuid
  profile : ProfileDto
  password : Option String
  deriving DecidableEq, Repr

structure UserLoginDto where
  userId : Uuid
  username : String
  secondaryUsername : String
  password : Option String
  groups : List ServiceProviderType
  deriving DecidableEq, Repr

/-- What the services take from outside. Lower case is lower case already. -/
structure AccountSettings where
  toLowerCase : String → String
  toLowerCase_toLowerCase : ∀ text, toLowerCase (toLowerCase text) = toLowerCase text
  hash : String → String

inductive AccountError where
  | emailAddressAlreadyInUsed (emailAddress : String)
  | primaryPhoneNumberAlreadyInUsed (phoneNumber : String)
  | entityNotFound (entityName : String) (id : Uuid)
  | badRequest
  | constraintViolated
  | passwordNotHashed
  deriving DecidableEq, Repr

abbrev AccountCommand := Command Store AccountError

namespace ProfileDto

/-- The phone number and the e-mail address as they are stored. -/
def normalize (toLowerCase : String → String) (dto : ProfileDto) : ProfileDto :=
  { dto with
    phoneNumber := stripPhoneNumber dto.phoneNumber
    emailAddress := toLowerCase dto.emailAddress }

end ProfileDto

/-- What is saved over a profile, or as a new one. -/
def ProfileDto.over (dto : ProfileDto) (id : Uuid) : Option ServiceProvider → ServiceProvider
  | none =>
    { id
      phoneNumber := dto.phoneNumber
      emailAddress := dto.emailAddress
      type := dto.type.getD .independent
      dealerId := dto.dealer.over none
      deletedAt := none }
  | some stored =>
    { stored with
      phoneNumber := dto.phoneNumber
      emailAddress := dto.emailAddress
      type := dto.type.getD stored.type
      dealerId := dto.dealer.over stored.dealerId }

/-! ### Queries -/

namespace Store

variable (store : Store)

/-- `count` of the profiles that are not deleted, less the one to be ignored. -/
def countMatching (column : ServiceProvider → String) (value : String)
    (ignoreServiceProviderId : Option Uuid) : Nat :=
  store.providers.rows.countP fun provider =>
    provider.deletedAt = none ∧ column provider = value ∧
      ignoreServiceProviderId ≠ some provider.id

/-- The foreign key of a profile. -/
def hasDealer : Reference → Bool
  | .dealer id => (store.dealers.find id).isSome
  | _ => true

/-- Another dealer, deleted or not, has the profile. -/
def isTaken (profileId id : Uuid) : Bool :=
  store.dealers.rows.any fun dealer => dealer.id ≠ id ∧ dealer.profileId = some profileId

def findLogin (userId : Uuid) : Option UserLogin :=
  (store.logins.find (.provider, userId)).filter (·.deletion.isNone)

/-- The two unique constraints on user names: with its type and its deletion token no login of
another user has one of them. Names that are null are never the same. -/
def namesAreFree (owner : UserType × Uuid) (deletionToken : Option Uuid) (username : String)
    (secondaryUsername : Option String) : Bool :=
  store.logins.rows.all fun other =>
    other.owner = owner ∨ other.userType ≠ owner.1 ∨ other.deletionToken ≠ deletionToken ∨
      (other.username ≠ username ∧
        (secondaryUsername = none ∨ other.secondaryUsername ≠ secondaryUsername))

/-- The login can be stored as it is. -/
def accepts (login : UserLogin) : Bool :=
  store.namesAreFree login.owner login.deletionToken login.username login.secondaryUsername

end Store

/-- `ValidateUniquenessOfPrimaryPhoneAndEmailOrThrowQuery`. -/
def validateUniquenessOfPrimaryPhoneAndEmailOrThrow (phoneNumber emailAddress : String)
    (ignoreServiceProviderId : Option Uuid) : List AccountCommand :=
  [check (fun store =>
      store.countMatching (·.emailAddress) emailAddress ignoreServiceProviderId = 0)
      (.emailAddressAlreadyInUsed emailAddress),
    check (fun store =>
      store.countMatching (·.phoneNumber) phoneNumber ignoreServiceProviderId = 0)
      (.primaryPhoneNumberAlreadyInUsed phoneNumber)]

/-! ### Commands -/

def saveProvider (user : ProfileDto) (id : Uuid) : AccountCommand := fun store =>
  if store.hasDealer user.dealer then
    .ok (store.putProvider (user.over id (store.providers.find id)))
  else .error .constraintViolated

def insertProvider (user : ProfileDto) (id : Uuid) : AccountCommand := fun store =>
  if store.providers.find id = none ∧ store.hasDealer user.dealer then
    .ok (store.putProvider (user.over id none))
  else .error .constraintViolated

/-- The dealer with another profile, or a new one with it. -/
def Store.dealerWith (store : Store) (id : Uuid) (profileId : Option Uuid) : Dealer :=
  match store.dealers.find id with
  | none => ⟨id, profileId, none⟩
  | some dealer => { dealer with profileId := profileId <|> dealer.profileId }

/-- Saves a dealer and its profile, which is never inserted. A profile without an identifier is
passed over. -/
def saveDealer (id : Uuid) (profile : ProfileDto) : AccountCommand := fun store =>
  let saved := store.putDealer (store.dealerWith id profile.id)
  match profile.id with
  | none => .ok saved
  | some profileId =>
    match store.providers.find profileId with
    | none => .error .constraintViolated
    | some stored =>
      if store.isTaken profileId id = false ∧ saved.hasDealer profile.dealer then
        .ok (saved.putProvider (profile.over profileId (some stored)))
      else .error .constraintViolated

def UserLoginDto.create (hash : String → String) (input : UserLoginDto) (password : String) :
    UserLogin where
  userType := .provider
  userId := input.userId
  username := input.username
  secondaryUsername := some input.secondaryUsername
  passwordHash := hash password
  groups := input.groups
  deletion := none

/-- Only a password that is given and not empty is changed. -/
def UserLoginDto.update (hash : String → String) (input : UserLoginDto) (userLogin : UserLogin) :
    UserLogin :=
  { userLogin with
    passwordHash := ((input.password.filter (· ≠ "")).map hash).getD userLogin.passwordHash
    username := input.username
    secondaryUsername := some input.secondaryUsername
    groups := input.groups }

/-- A password that is missing cannot be hashed. -/
def createUserLogin (hash : String → String) (input : UserLoginDto) : AccountCommand :=
  fun store =>
    match input.password with
    | none => .error .passwordNotHashed
    | some password =>
      let userLogin := input.create hash password
      if store.logins.find userLogin.owner = none ∧ store.accepts userLogin then
        .ok (store.putLogin userLogin)
      else .error .constraintViolated

def updateUserLogin (hash : String → String) (input : UserLoginDto) : AccountCommand :=
  fun store =>
    match store.findLogin input.userId with
    | none => .error .badRequest
    | some userLogin =>
      let updated := input.update hash userLogin
      if store.accepts updated then .ok (store.putLogin updated)
      else .error .constraintViolated

def deleteUserLogin (userId : Uuid) (deletion : Deletion) : AccountCommand := fun store =>
  match store.findLogin userId with
  | none => .error .badRequest
  | some userLogin =>
    let deleted : UserLogin := { userLogin with deletion := some deletion }
    if store.accepts deleted then .ok (store.putLogin deleted)
    else .error .constraintViolated

def softDeleteProvider (id : Uuid) (now : Time) : AccountCommand := fun store =>
  match store.providers.find id with
  | none => .ok store
  | some provider => .ok (store.putProvider { provider with deletedAt := some now })

def softDeleteDealer (id : Uuid) (now : Time) : AccountCommand := fun store =>
  match store.dealers.find id with
  | none => .ok store
  | some dealer => .ok (store.putDealer { dealer with deletedAt := some now })

/-! ### The services -/

/-- What an operation draws: the identifier of a new row, and the deletion of a login. -/
structure Drawn where
  id : Uuid
  deletion : Deletion
  deriving DecidableEq, Repr

section Services

variable (settings : AccountSettings) (drawn : Drawn)

namespace ServiceProviderService

/-- The profile as the service saves it. -/
def user (dto : ServiceProviderDto) : ProfileDto :=
  { dto.toProfileDto.normalize settings.toLowerCase with
    type := some (if dto.dealer.isGiven then .worker else .independent) }

def login (dto : ServiceProviderDto) (id : Uuid) : UserLoginDto where
  userId := id
  username := stripPhoneNumber dto.phoneNumber
  secondaryUsername := settings.toLowerCase dto.emailAddress
  password := dto.password
  groups := [if dto.dealer.isGiven then .worker else .independent]

def createOne (dto : ServiceProviderDto) : List AccountCommand :=
  validateUniquenessOfPrimaryPhoneAndEmailOrThrow (user settings dto).phoneNumber
      (user settings dto).emailAddress none ++
    [saveProvider (user settings dto) (dto.id.getD drawn.id),
      createUserLogin settings.hash (login settings dto (dto.id.getD drawn.id))]

def replaceOne (dto : ServiceProviderDto) : List AccountCommand :=
  validateUniquenessOfPrimaryPhoneAndEmailOrThrow (user settings dto).phoneNumber
      (user settings dto).emailAddress dto.id ++
    [saveProvider (user settings dto) (dto.id.getD drawn.id),
      updateUserLogin settings.hash (login settings dto (dto.id.getD drawn.id))]

def softDeleteOne (id : Uuid) : List AccountCommand :=
  [check (fun store => (store.providers.find id).any (·.deletedAt = none))
      (.entityNotFound "ServiceProvider" id),
    softDeleteProvider id drawn.deletion.deletedAt,
    deleteUserLogin id drawn.deletion]

end ServiceProviderService

namespace DealerService

def login (dto : DealerDto) (id : Uuid) : UserLoginDto where
  userId := id
  username := stripPhoneNumber dto.profile.phoneNumber
  secondaryUsername := settings.toLowerCase dto.profile.emailAddress
  password := dto.password
  groups := [.dealer]

/-- The profile with the type and the identifier it has once it is inserted. -/
def insertedProfile (dto : DealerDto) : ProfileDto :=
  { dto.profile.normalize settings.toLowerCase with
    id := some (dto.profile.id.getD drawn.id)
    type := some .dealer }

def createOne (dto : DealerDto) : List AccountCommand :=
  validateUniquenessOfPrimaryPhoneAndEmailOrThrow (insertedProfile settings drawn dto).phoneNumber
      (insertedProfile settings drawn dto).emailAddress none ++
    [insertProvider (insertedProfile settings drawn dto) (dto.profile.id.getD drawn.id),
      saveDealer (dto.profile.id.getD drawn.id) (insertedProfile settings drawn dto),
      createUserLogin settings.hash (login settings dto (dto.profile.id.getD drawn.id))]

def replaceOne (dto : DealerDto) : List AccountCommand :=
  validateUniquenessOfPrimaryPhoneAndEmailOrThrow
      (dto.profile.normalize settings.toLowerCase).phoneNumber
      (dto.profile.normalize settings.toLowerCase).emailAddress dto.profile.id ++
    [saveDealer (dto.id.getD drawn.id) (dto.profile.normalize settings.toLowerCase),
      updateUserLogin settings.hash (login settings dto (dto.id.getD drawn.id))]

def softDeleteOne (id : Uuid) : List AccountCommand :=
  [check (fun store => (store.dealers.find id).any (·.deletedAt = none))
      (.entityNotFound "Dealer" id),
    softDeleteDealer id drawn.deletion.deletedAt] ++
    ServiceProviderService.softDeleteOne drawn id

end DealerService

end Services

/-! ### Sequences of operations -/

inductive Operation where
  | createProvider (dto : ServiceProviderDto)
  | replaceProvider (dto : ServiceProviderDto)
  | deleteProvider (id : Uuid)
  | createDealer (dto : DealerDto)
  | replaceDealer (dto : DealerDto)
  | deleteDealer (id : Uuid)

/-- An operation, what it draws, and how many of its commands come through. -/
structure AccountAction where
  operation : Operation
  drawn : Drawn
  reach : Nat

def AccountAction.commands (settings : AccountSettings) (action : AccountAction) :
    List AccountCommand :=
  match action.operation with
  | .createProvider dto => ServiceProviderService.createOne settings action.drawn dto
  | .replaceProvider dto => ServiceProviderService.replaceOne settings action.drawn dto
  | .deleteProvider id => ServiceProviderService.softDeleteOne action.drawn id
  | .createDealer dto => DealerService.createOne settings action.drawn dto
  | .replaceDealer dto => DealerService.replaceOne settings action.drawn dto
  | .deleteDealer id => DealerService.softDeleteOne action.drawn id

def Store.step (settings : AccountSettings) (store : Store) (action : AccountAction) : Store :=
  carryOut (action.commands settings) action.reach store

end FieldService.Accounts
