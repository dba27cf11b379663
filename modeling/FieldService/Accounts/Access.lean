/-
This file models how users get at their accounts: the logins of administrators and of providers, the
tokens they come in with, and the ways in which a password is changed or reset.

A login is answered by two tokens, one to come in with and one to be exchanged for the next two, and
nobody asks later which of the two a token is. What lets a user reset a password is a text that is
kept with the login: the instant it was drawn at, encoded, and what was drawn.

What a query finds may be any of the rows it matches. A token cannot be forged, so that the signed
ones are all there are.
-/

import FieldService.Accounts.Services
import FieldService.Auth.PhoneVerification
import FieldService.Library.Base64
import FieldService.Library.Execution
import FieldService.Library.Instants

namespace FieldService.Accounts

open Auth Commands Dates

/-! ### Verification tokens -/

namespace VerificationTokenGenerator

def generateVerificationToken (now : Instant) (publicId : List Char) : List Char :=
  Base64.encode ((isoText now.milliseconds).map Char.toNat) ++ '_' :: publicId

/-- A text that is not an instant's has no age, which is less than nothing. -/
def verifyVerificationToken (duration : Int) (now : Instant) (token : List Char) : Bool :=
  let generatedOn := token.takeWhile (· ≠ '_')
  match readIso ((Base64.decode generatedOn).map Char.ofNat) with
  | none => false
  | some date => now.milliseconds - date < duration

end VerificationTokenGenerator

/-! ### Users and tokens -/

structure AdminUser where
  id : Uuid
  emailAddress : String
  deriving DecidableEq, Repr

structure AccessTokenPayload where
  sub : Uuid
  aud : UserType
  username : String
  groups : List ServiceProviderType
  deriving DecidableEq, Repr

inductive TokenType where
  | bearer
  | refresh
  deriving DecidableEq, Repr

/-- What is signed, with the seconds it is signed and runs out at. -/
structure Jwt extends AccessTokenPayload where
  typ : TokenType
  iat : Int
  exp : Int
  deriving DecidableEq, Repr

structure AccessToken where
  accessToken : Jwt
  expiresIn : Nat
  refreshToken : Jwt
  refreshExpiresIn : Nat
  deriving DecidableEq, Repr

structure AdminPasswordResetEvent where
  user : AdminUser
  passwordResetToken : List Char
  deriving DecidableEq, Repr

inductive AccessError where
  | invalidCredentials
  | badRequest
  | entityNotFound (entityName : String) (id : Uuid)
  | passwordResetTokenExpired
  | otpTokenExpired
  | otpTokenNotRecognized
  | tokenInvalid
  | constraintViolated
  | typeError
  deriving DecidableEq, Repr

/-- What access takes from outside. A query for one row finds one if there is any. -/
structure AccessSettings extends AccountSettings where
  check : String → String → Bool
  findOne : List UserLogin → Option UserLogin
  findOne_mem : ∀ {rows : List UserLogin} {userLogin : UserLogin},
    findOne rows = some userLogin → userLogin ∈ rows
  findOne_none : ∀ {rows : List UserLogin}, findOne rows = none → rows = []
  verificationTokenDuration : Int
  jwtTokenExpirationTime : Nat
  jwtRefreshTokenExpirationTime : Nat

/-! ### What is stored -/

/-- What becomes of the tokens for a reset: one is stored, or the password is reset, with a token or
by other means. -/
inductive TokenEvent where
  | requested (owner : UserType × Uuid) (now : Instant) (publicId : List Char)
  | settled (owner : UserType × Uuid) (token : Option (List Char))
  deriving DecidableEq, Repr

def TokenEvent.owner : TokenEvent → UserType × Uuid
  | .requested owner _ _ => owner
  | .settled owner _ => owner

/-- The tables, with columns of their own for the status of a provider and for what a login keeps
besides names and password. What has been signed, sent and done is recorded, the last of it
first. -/
structure Access where
  accounts : Store
  adminUsers : Table Uuid AdminUser AdminUser.id
  generalStatus : Uuid → UserStatus
  passwordResetToken : UserType × Uuid → Option (List Char)
  isLogin : UserType × Uuid → Bool
  signed : List Jwt
  published : List AdminPasswordResetEvent
  history : List TokenEvent

namespace Access

/-- Before anybody has signed in or asked for a reset. -/
def start (accounts : Store) (adminUsers : Table Uuid AdminUser AdminUser.id)
    (generalStatus : Uuid → UserStatus) : Access where
  accounts
  adminUsers
  generalStatus
  passwordResetToken _ := none
  isLogin _ := false
  signed := []
  published := []
  history := []

variable (settings : AccessSettings) (access : Access)

def findOne (criteria : UserLogin → Bool) : Option UserLogin :=
  settings.findOne (access.accounts.logins.rows.filter fun userLogin =>
    userLogin.deletion.isNone ∧ criteria userLogin)

/-- The login of a user, of whom there is one. -/
def findLogin (owner : UserType × Uuid) : Option UserLogin :=
  (access.accounts.logins.find owner).filter (·.deletion.isNone)

def findByUsernames (userType : UserType) (username : String) : Option UserLogin :=
  access.findOne settings fun userLogin =>
    userLogin.userType = userType ∧
      (userLogin.username = username ∨ userLogin.secondaryUsername = some username)

/-- The profile of a provider, unless it is deleted. -/
def findProvider (id : Uuid) : Option ServiceProvider :=
  (access.accounts.providers.find id).filter (·.deletedAt.isNone)

def savePassword (userLogin : UserLogin) (password : String) : Access :=
  { access with
    accounts :=
      access.accounts.putLogin { userLogin with passwordHash := settings.hash password } }

/-- The password is reset, and the token is no more. -/
def settle (userLogin : UserLogin) (password : String) (token : Option (List Char)) : Access :=
  { access.savePassword settings userLogin password with
    passwordResetToken := Function.update access.passwordResetToken userLogin.owner none
    history := .settled userLogin.owner token :: access.history }

/-- A token for a reset is stored with a login. -/
def request (userLogin : UserLogin) (now : Instant) (publicId : List Char) : Access :=
  { access with
    passwordResetToken := Function.update access.passwordResetToken userLogin.owner
      (some (VerificationTokenGenerator.generateVerificationToken now publicId))
    history := .requested userLogin.owner now publicId :: access.history }

end Access

/-! ### Signing in -/

/-- The seconds of a token, of which the fraction is dropped. -/
def seconds (now : Instant) : Int :=
  now.milliseconds / 1000

namespace JwtService

def sign (payload : AccessTokenPayload) (typ : TokenType) (now : Instant) (expiresIn : Nat) : Jwt :=
  { payload with typ, iat := seconds now, exp := seconds now + expiresIn }

def verify (access : Access) (now : Instant) (token : Jwt) : Bool :=
  token ∈ access.signed ∧ seconds now < token.exp

end JwtService

/-- `JwtAuthGuard` with `JwtStrategy`: who comes in, if anybody. -/
def JwtAuthGuard.canActivate (access : Access) (now : Instant) (token : Jwt) :
    Option AccessTokenPayload :=
  if JwtService.verify access now token then some token.toAccessTokenPayload else none

structure LoginCredentialDto where
  username : String
  password : String
  deriving DecidableEq, Repr

namespace AuthService

variable (settings : AccessSettings) (access : Access)

def validateUserLogin (userType : UserType) (username password : String) :
    Except AccessError UserLogin :=
  match access.findByUsernames settings userType username with
  | none => .error .invalidCredentials
  | some userLogin =>
    if settings.check password userLogin.passwordHash then .ok userLogin
    else .error .invalidCredentials

/-- A user that is not found has no properties to read. -/
def buildAccessTokenPayload (userType : UserType) (userId : Uuid)
    (groups : List ServiceProviderType) : Except AccessError AccessTokenPayload :=
  match userType with
  | .admin =>
    match access.adminUsers.find userId with
    | none => .error .typeError
    | some adminUser => .ok ⟨adminUser.id, .admin, adminUser.emailAddress, groups⟩
  | .provider =>
    match access.findProvider userId with
    | none => .error .typeError
    | some serviceProvider =>
      if access.generalStatus userId = .banned then .error .invalidCredentials
      else .ok ⟨serviceProvider.id, .provider, serviceProvider.phoneNumber, groups⟩

def createAccessToken (now : Instant) (userLogin : UserLogin) : Except AccessError AccessToken :=
  (buildAccessTokenPayload access userLogin.userType userLogin.userId userLogin.groups).map
    fun payload =>
      { accessToken := JwtService.sign payload .bearer now settings.jwtTokenExpirationTime
        expiresIn := settings.jwtTokenExpirationTime
        refreshToken := JwtService.sign payload .refresh now settings.jwtRefreshTokenExpirationTime
        refreshExpiresIn := settings.jwtRefreshTokenExpirationTime }

end AuthService

namespace Access

/-- The tokens that have been made, if any, are signed. -/
def sign (access : Access) (made : Except AccessError AccessToken) : Access :=
  match made with
  | .error _ => access
  | .ok token => { access with signed := token.accessToken :: token.refreshToken :: access.signed }

end Access

namespace AuthService

variable (settings : AccessSettings) (access : Access) (now : Instant)

def updateLoginStatus (userLogin : UserLogin) (isLogin : Bool) : Access :=
  { access with isLogin := Function.update access.isLogin userLogin.owner isLogin }

/-- The status is stored also if no token is made. -/
def login (userType : UserType) (credential : LoginCredentialDto) :
    Except AccessError AccessToken × Access :=
  match validateUserLogin settings access userType (settings.toLowerCase credential.username)
      credential.password with
  | .error error => (.error error, access)
  | .ok userLogin =>
    let made := createAccessToken settings access now userLogin
    (made, (updateLoginStatus access userLogin true).sign made)

def logout (userType : UserType) (userId : Uuid) : Except AccessError Unit × Access :=
  match access.findLogin (userType, userId) with
  | none => (.error .badRequest, access)
  | some userLogin => (.ok (), updateLoginStatus access userLogin false)

/-- The type is the one asked for, whosever the token is. -/
def refreshAccessToken (userType : UserType) (token : Jwt) :
    Except AccessError AccessToken × Access :=
  if JwtService.verify access now token then
    match access.findLogin (userType, token.sub) with
    | none => (.error .badRequest, access)
    | some userLogin =>
      let made := createAccessToken settings access now userLogin
      (made, access.sign made)
  else (.error .tokenInvalid, access)

/-! ### Passwords -/

def updatePassword (userType : UserType) (userId : Uuid) (currentPassword newPassword : String) :
    Except AccessError Bool × Access :=
  match access.findLogin (userType, userId) with
  | none => (.error (.entityNotFound "User" userId), access)
  | some userLogin =>
    if settings.check currentPassword userLogin.passwordHash then
      (.ok true, access.savePassword settings userLogin newPassword)
    else (.error .invalidCredentials, access)

/-- Only a user who is an administrator gets a token, and only to administrators is it sent. -/
def setPasswordResetToken (publicId : List Char) (userType : UserType) (username : String) :
    Option UserLogin × Access :=
  match access.findByUsernames settings userType username with
  | none => (none, access)
  | some userLogin =>
    match access.adminUsers.find userLogin.userId with
    | none => (none, access)
    | some user =>
      let stored := access.request userLogin now publicId
      (some userLogin,
        if userType = .admin then
          { stored with
            published :=
              ⟨user, VerificationTokenGenerator.generateVerificationToken now publicId⟩ ::
                access.published }
        else stored)

/-- Without a token any login is found, and there is nothing to be verified. -/
def resetPasswordByToken (passwordResetToken : Option (List Char)) (password : String) :
    Except AccessError (Option UserLogin) × Access :=
  match passwordResetToken with
  | none =>
    match access.findOne settings fun _ => true with
    | none => (.ok none, access)
    | some _ => (.error .typeError, access)
  | some token =>
    match access.findOne settings fun userLogin =>
        access.passwordResetToken userLogin.owner = some token with
    | none => (.ok none, access)
    | some userLogin =>
      if VerificationTokenGenerator.verifyVerificationToken settings.verificationTokenDuration now
          token then
        (.ok (some userLogin), access.settle settings userLogin password (some token))
      else (.error .passwordResetTokenExpired, access)

def resetPasswordByOtpToken (verifications : List PhoneVerification) (databaseNow : Time)
    (otpToken : Int) (phoneNumber password : String) :
    Except AccessError (Option UserLogin) × Access :=
  match access.findOne settings (·.username = stripPhoneNumber phoneNumber) with
  | none => (.ok none, access)
  | some userLogin =>
    match PhoneVerificationRepository.getValidOtpToken verifications databaseNow
        (stripPhoneNumber phoneNumber) with
    | none => (.error .otpTokenExpired, access)
    | some extantOtpToken =>
      if !extantOtpToken.isBeforeExpiry now.milliseconds then (.error .otpTokenExpired, access)
      else if extantOtpToken.otpToken ≠ otpToken then (.error .otpTokenNotRecognized, access)
      else (.ok (some userLogin), access.settle settings userLogin password none)

end AuthService

/-! ### Administrators -/

structure AdminUserDto where
  id : Option Uuid
  emailAddress : String
  password : Option String
  deriving DecidableEq, Repr

abbrev AccessCommand := Command Access AccessError

/-- Nobody else has the e-mail address. -/
def saveAdminUser (id : Uuid) (emailAddress : String) : AccessCommand := fun access =>
  if access.adminUsers.rows.all fun other => other.id = id ∨ other.emailAddress ≠ emailAddress then
    .ok { access with adminUsers := access.adminUsers.save ⟨id, emailAddress⟩ }
  else .error .constraintViolated

/-- `createUserLogin` for an administrator, who has one user name and no groups. -/
def createAdminLogin (hash : String → String) (userId : Uuid) (username : String)
    (password : Option String) : AccessCommand := fun access =>
  match password with
  | none => .error .typeError
  | some password =>
    let userLogin : UserLogin := ⟨.admin, userId, username, none, hash password, [], none⟩
    if access.accounts.logins.find userLogin.owner = none ∧ access.accounts.accepts userLogin then
      .ok { access with accounts := access.accounts.putLogin userLogin }
    else .error .constraintViolated

/-- `updateUserLogin` for an administrator. What is undefined stays as it is. -/
def updateAdminLogin (hash : String → String) (userId : Uuid) (username : String)
    (password : Option String) : AccessCommand := fun access =>
  match access.findLogin (.admin, userId) with
  | none => .error .badRequest
  | some userLogin =>
    let updated : UserLogin :=
      { userLogin with
        passwordHash := ((password.filter (· ≠ "")).map hash).getD userLogin.passwordHash
        username := username }
    if access.accounts.accepts updated then
      .ok { access with accounts := access.accounts.putLogin updated }
    else .error .constraintViolated

namespace AdminUserService

variable (settings : AccessSettings)

def createOne (id : Uuid) (dto : AdminUserDto) : List AccessCommand :=
  [saveAdminUser (dto.id.getD id) (settings.toLowerCase dto.emailAddress),
    createAdminLogin settings.hash (dto.id.getD id) (settings.toLowerCase dto.emailAddress)
      dto.password]

/-- An administrator who is missing is created. -/
def overrideReplaceOne (id : Uuid) (dto : AdminUserDto) : List AccessCommand :=
  [saveAdminUser id (settings.toLowerCase dto.emailAddress),
    updateAdminLogin settings.hash id (settings.toLowerCase dto.emailAddress) dto.password]

/-- The login stays. -/
def deleteOne (id : Uuid) (access : Access) : Access :=
  { access with
    adminUsers :=
      { rows := access.adminUsers.rows.filter (·.id ≠ id)
        distinct := access.adminUsers.distinct.sublist (List.filter_sublist.map _) } }

end AdminUserService

/-! ### Sequences of operations -/

structure ChangePasswordInput where
  currentPassword : String
  newPassword : String
  deriving DecidableEq, Repr

inductive AccessOperation where
  | account (action : AccountAction)
  /-- `generalStatus` of a profile, which is saved with it. -/
  | saveGeneralStatus (id : Uuid) (status : UserStatus)
  | createAdminUser (id : Uuid) (dto : AdminUserDto) (reach : Nat)
  | replaceAdminUser (id : Uuid) (dto : AdminUserDto) (reach : Nat)
  | deleteAdminUser (id : Uuid)
  | login (userType : UserType) (credential : LoginCredentialDto)
  | logout (token : Jwt)
  | refreshToken (userType : UserType) (token : Jwt)
  | changePassword (userType : UserType) (token : Jwt) (input : ChangePasswordInput)
  | forgetPassword (userType : UserType) (username : String)
  | adminResetPassword (token : Option (List Char)) (password : String)
  | providerResetPassword (verifications : List PhoneVerification) (databaseNow : Time)
    (otpToken : Int) (phoneNumber password : String)

/-- An operation, its instant, and the identifier that is drawn if one is. -/
structure AccessAction where
  operation : AccessOperation
  now : Instant
  publicId : List Char

/-- `AuthController` and what else writes to the tables. What the guard does not admit does
nothing. -/
def Access.step (settings : AccessSettings) (access : Access) (action : AccessAction) : Access :=
  match action.operation with
  | .account account =>
    { access with accounts := access.accounts.step settings.toAccountSettings account }
  | .saveGeneralStatus id status =>
    { access with generalStatus := Function.update access.generalStatus id status }
  | .createAdminUser id dto reach =>
    carryOut (AdminUserService.createOne settings id dto) reach access
  | .replaceAdminUser id dto reach =>
    carryOut (AdminUserService.overrideReplaceOne settings id dto) reach access
  | .deleteAdminUser id => AdminUserService.deleteOne id access
  | .login userType credential =>
    (AuthService.login settings access action.now userType credential).2
  | .logout token =>
    match JwtAuthGuard.canActivate access action.now token with
    | none => access
    | some user => (AuthService.logout access user.aud user.sub).2
  | .refreshToken userType token =>
    (AuthService.refreshAccessToken settings access action.now userType token).2
  | .changePassword userType token input =>
    match JwtAuthGuard.canActivate access action.now token with
    | none => access
    | some user =>
      (AuthService.updatePassword settings access userType user.sub input.currentPassword
        input.newPassword).2
  | .forgetPassword userType username =>
    (AuthService.setPasswordResetToken settings access action.now action.publicId userType
      (settings.toLowerCase username)).2
  | .adminResetPassword token password =>
    (AuthService.resetPasswordByToken settings access action.now token password).2
  | .providerResetPassword verifications databaseNow otpToken phoneNumber password =>
    (AuthService.resetPasswordByOtpToken settings access action.now verifications databaseNow
      otpToken phoneNumber password).2

def exampleInstant : Instant := ⟨1600000000000, by decide⟩

def exampleAccessSettings : AccessSettings where
  toLowerCase username := username
  toLowerCase_toLowerCase _ := rfl
  hash password := "hash of " ++ password
  check password passwordHash := "hash of " ++ password = passwordHash
  findOne := List.head?
  findOne_mem := List.mem_of_head?
  findOne_none := List.head?_eq_none_iff.mp
  verificationTokenDuration := 604800000
  jwtTokenExpirationTime := 2592000
  jwtRefreshTokenExpirationTime := 2592000

end FieldService.Accounts
