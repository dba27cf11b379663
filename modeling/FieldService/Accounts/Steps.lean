/-
This file shows what a step of access can do: it writes to tables, signs tokens for a login that is
found, stores a token for a reset, or resets a password. A login that is deleted is never found, nor
written over.
-/

import FieldService.Accounts.Access

namespace FieldService.Accounts

open Auth Commands Dates

/-! ### Looking logins up -/

section

variable {settings : AccessSettings} {access : Access}

namespace Access

theorem findOne_spec {criteria : UserLogin → Bool} {userLogin : UserLogin}
    (found : access.findOne settings criteria = some userLogin) :
    access.findLogin userLogin.owner = some userLogin ∧ criteria userLogin = true := by
  obtain ⟨member, holds⟩ := List.mem_filter.mp (settings.findOne_mem found)
  simp only [decide_eq_true_eq] at holds
  rw [findLogin, access.accounts.logins.find_of_mem member, Option.filter_some, if_pos holds.1]
  exact ⟨rfl, holds.2⟩

theorem findLogin_spec {owner : UserType × Uuid} {userLogin : UserLogin}
    (found : access.findLogin owner = some userLogin) :
    userLogin ∈ access.accounts.logins.rows ∧ userLogin.owner = owner ∧
      userLogin.deletion = none := by
  obtain ⟨stored, kept⟩ := Option.filter_eq_some_iff.mp found
  obtain ⟨member, owned⟩ := access.accounts.logins.find_key stored
  exact ⟨member, owned, by simpa using kept⟩

/-- A query finds something if there is a login to be found. -/
theorem findOne_isSome {criteria : UserLogin → Bool} {owner : UserType × Uuid}
    {userLogin : UserLogin} (found : access.findLogin owner = some userLogin)
    (holds : criteria userLogin = true) : (access.findOne settings criteria).isSome = true := by
  obtain ⟨member, -, active⟩ := findLogin_spec found
  rw [Option.isSome_iff_ne_none]
  intro nothing
  have empty := settings.findOne_none nothing
  rw [List.filter_eq_nil_iff] at empty
  exact empty userLogin member (by simp [active, holds])

end Access

end

/-! ### Deleted logins -/

/-- The login of a user is there and deleted. -/
def Store.IsDeleted (store : Store) (owner : UserType × Uuid) : Prop :=
  ∃ userLogin, store.logins.find owner = some userLogin ∧ userLogin.deletion ≠ none

/-- A login stays deleted when another is written over one that is not. -/
theorem Store.IsDeleted.putLogin {store : Store} {owner : UserType × Uuid}
    (deleted : store.IsDeleted owner) {userLogin : UserLogin}
    (active : ¬store.IsDeleted userLogin.owner) : (store.putLogin userLogin).IsDeleted owner := by
  obtain ⟨stored, found, gone⟩ := deleted
  refine ⟨stored, ?_, gone⟩
  rw [Store.putLogin, Table.find_save, if_neg ?_]
  · exact found
  · rintro rfl
    exact active ⟨stored, found, gone⟩

/-- A login that is found is not deleted. -/
theorem Store.not_isDeleted {store : Store} {owner : UserType × Uuid} {userLogin : UserLogin}
    (found : (store.logins.find owner).filter (·.deletion.isNone) = some userLogin) :
    ¬store.IsDeleted userLogin.owner := by
  rintro ⟨stored, also, gone⟩
  obtain ⟨same, active⟩ := Option.filter_eq_some_iff.mp found
  obtain ⟨member, -⟩ := store.logins.find_key same
  rw [store.logins.find_of_mem member] at also
  cases also
  exact gone (Option.isNone_iff_eq_none.mp active)

namespace Store

/-- A command that brings no deleted login back. -/
def KeepsDeleted (command : AccountCommand) : Prop :=
  ∀ store next, command store = .ok next → ∀ owner, store.IsDeleted owner → next.IsDeleted owner

theorem keepsDeleted_check (passes : Store → Bool) (error : AccountError) :
    KeepsDeleted (check passes error) := by
  intro store next checked owner deleted
  simp only [check] at checked
  split at checked
  · cases checked
    exact deleted
  · cases checked

/-- A command that leaves the logins alone. -/
theorem keepsDeleted_of_logins {command : AccountCommand}
    (logins : ∀ store next, command store = .ok next → next.logins = store.logins) :
    KeepsDeleted command := by
  intro store next result owner deleted
  rw [IsDeleted, logins store next result]
  exact deleted

theorem keepsDeleted_createUserLogin (hash : String → String) (input : UserLoginDto) :
    KeepsDeleted (createUserLogin hash input) := by
  intro store next created owner deleted
  simp only [createUserLogin] at created
  split at created
  · cases created
  split at created
  · rename_i free
    cases created
    refine deleted.putLogin ?_
    rintro ⟨stored, found, -⟩
    rw [free.1] at found
    cases found
  · cases created

theorem keepsDeleted_updateUserLogin (hash : String → String) (input : UserLoginDto) :
    KeepsDeleted (updateUserLogin hash input) := by
  intro store next updated owner deleted
  simp only [updateUserLogin] at updated
  split at updated
  · cases updated
  rename_i userLogin found
  split at updated
  · cases updated
    have active : ¬store.IsDeleted userLogin.owner := not_isDeleted found
    exact deleted.putLogin active
  · cases updated

theorem keepsDeleted_deleteUserLogin (userId : Uuid) (deletion : Deletion) :
    KeepsDeleted (deleteUserLogin userId deletion) := by
  intro store next result owner deleted
  simp only [deleteUserLogin] at result
  split at result
  · cases result
  rename_i userLogin found
  split at result
  · cases result
    have active : ¬store.IsDeleted userLogin.owner := not_isDeleted found
    exact deleted.putLogin active
  · cases result

theorem keepsDeleted_saveProvider (user : ProfileDto) (id : Uuid) :
    KeepsDeleted (saveProvider user id) := by
  refine keepsDeleted_of_logins fun store next saved => ?_
  simp only [saveProvider] at saved
  split at saved
  · cases saved
    rfl
  · cases saved

theorem keepsDeleted_insertProvider (user : ProfileDto) (id : Uuid) :
    KeepsDeleted (insertProvider user id) := by
  refine keepsDeleted_of_logins fun store next inserted => ?_
  simp only [insertProvider] at inserted
  split at inserted
  · cases inserted
    rfl
  · cases inserted

theorem keepsDeleted_saveDealer (id : Uuid) (profile : ProfileDto) :
    KeepsDeleted (saveDealer id profile) := by
  refine keepsDeleted_of_logins fun store next saved => ?_
  simp only [saveDealer] at saved
  split at saved
  · cases saved
    rfl
  split at saved
  · cases saved
  split at saved
  · cases saved
    rfl
  · cases saved

theorem keepsDeleted_softDeleteProvider (id : Uuid) (now : Time) :
    KeepsDeleted (softDeleteProvider id now) := by
  refine keepsDeleted_of_logins fun store next deleted => ?_
  simp only [softDeleteProvider] at deleted
  split at deleted <;> cases deleted <;> rfl

theorem keepsDeleted_softDeleteDealer (id : Uuid) (now : Time) :
    KeepsDeleted (softDeleteDealer id now) := by
  refine keepsDeleted_of_logins fun store next deleted => ?_
  simp only [softDeleteDealer] at deleted
  split at deleted <;> cases deleted <;> rfl

theorem keepsDeleted_commands (settings : AccountSettings) (action : AccountAction) :
    ∀ command ∈ action.commands settings, KeepsDeleted command := by
  rw [AccountAction.commands]
  cases action.operation with
  | createProvider dto =>
    simp only [ServiceProviderService.createOne, validateUniquenessOfPrimaryPhoneAndEmailOrThrow,
      List.cons_append, List.nil_append, List.forall_mem_cons]
    exact ⟨keepsDeleted_check _ _, keepsDeleted_check _ _, keepsDeleted_saveProvider _ _,
      keepsDeleted_createUserLogin _ _, List.forall_mem_nil _⟩
  | replaceProvider dto =>
    simp only [ServiceProviderService.replaceOne, validateUniquenessOfPrimaryPhoneAndEmailOrThrow,
      List.cons_append, List.nil_append, List.forall_mem_cons]
    exact ⟨keepsDeleted_check _ _, keepsDeleted_check _ _, keepsDeleted_saveProvider _ _,
      keepsDeleted_updateUserLogin _ _, List.forall_mem_nil _⟩
  | deleteProvider id =>
    simp only [ServiceProviderService.softDeleteOne, List.forall_mem_cons]
    exact ⟨keepsDeleted_check _ _, keepsDeleted_softDeleteProvider _ _,
      keepsDeleted_deleteUserLogin _ _, List.forall_mem_nil _⟩
  | createDealer dto =>
    simp only [DealerService.createOne, validateUniquenessOfPrimaryPhoneAndEmailOrThrow,
      List.cons_append, List.nil_append, List.forall_mem_cons]
    exact ⟨keepsDeleted_check _ _, keepsDeleted_check _ _, keepsDeleted_insertProvider _ _,
      keepsDeleted_saveDealer _ _, keepsDeleted_createUserLogin _ _, List.forall_mem_nil _⟩
  | replaceDealer dto =>
    simp only [DealerService.replaceOne, validateUniquenessOfPrimaryPhoneAndEmailOrThrow,
      List.cons_append, List.nil_append, List.forall_mem_cons]
    exact ⟨keepsDeleted_check _ _, keepsDeleted_check _ _, keepsDeleted_saveDealer _ _,
      keepsDeleted_updateUserLogin _ _, List.forall_mem_nil _⟩
  | deleteDealer id =>
    simp only [DealerService.softDeleteOne, ServiceProviderService.softDeleteOne, List.cons_append,
      List.nil_append, List.forall_mem_cons]
    exact ⟨keepsDeleted_check _ _, keepsDeleted_softDeleteDealer _ _, keepsDeleted_check _ _,
      keepsDeleted_softDeleteProvider _ _, keepsDeleted_deleteUserLogin _ _, List.forall_mem_nil _⟩

theorem IsDeleted.step {store : Store} {owner : UserType × Uuid} (deleted : store.IsDeleted owner)
    (settings : AccountSettings) (action : AccountAction) :
    (store.step settings action).IsDeleted owner :=
  carryOut_related (fun _ _ deleted => deleted)
    (fun _ _ _ early late owner deleted => late owner (early owner deleted))
    (action.commands settings) (keepsDeleted_commands settings action) action.reach store owner
    deleted

end Store

/-! ### The commands on administrators -/

/-- Nothing but tables has changed, and deleted logins are deleted still. -/
structure TablesChanged (access after : Access) : Prop where
  others : after =
    { access with
      accounts := after.accounts
      adminUsers := after.adminUsers
      generalStatus := after.generalStatus
      isLogin := after.isLogin }
  deleted : ∀ owner, access.accounts.IsDeleted owner → after.accounts.IsDeleted owner

/-- A command that only writes to tables. -/
def OnlyTables (command : AccessCommand) : Prop :=
  ∀ access after, command access = .ok after → TablesChanged access after

theorem TablesChanged.refl (access : Access) : TablesChanged access access :=
  ⟨rfl, fun _ deleted => deleted⟩

theorem TablesChanged.trans {first second third : Access} (early : TablesChanged first second)
    (late : TablesChanged second third) : TablesChanged first third where
  others := by
    rw [late.others, early.others]
  deleted owner gone := late.deleted owner (early.deleted owner gone)

theorem OnlyTables.carryOut {commands : List AccessCommand}
    (onlyTables : ∀ command ∈ commands, OnlyTables command) (reach : Nat) (access : Access) :
    TablesChanged access (carryOut commands reach access) :=
  carryOut_related TablesChanged.refl (fun _ _ _ => TablesChanged.trans) commands onlyTables reach
    access

theorem onlyTables_saveAdminUser (id : Uuid) (emailAddress : String) :
    OnlyTables (saveAdminUser id emailAddress) := by
  intro access after saved
  simp only [saveAdminUser] at saved
  split at saved
  · cases saved
    exact ⟨rfl, fun _ deleted => deleted⟩
  · cases saved

theorem onlyTables_createAdminLogin (hash : String → String) (userId : Uuid) (username : String)
    (password : Option String) : OnlyTables (createAdminLogin hash userId username password) := by
  intro access after created
  simp only [createAdminLogin] at created
  split at created
  · cases created
  split at created
  · rename_i free
    cases created
    refine ⟨rfl, fun owner deleted => deleted.putLogin ?_⟩
    rintro ⟨stored, found, -⟩
    rw [free.1] at found
    cases found
  · cases created

theorem onlyTables_updateAdminLogin (hash : String → String) (userId : Uuid) (username : String)
    (password : Option String) : OnlyTables (updateAdminLogin hash userId username password) := by
  intro access after updated
  simp only [updateAdminLogin] at updated
  split at updated
  · cases updated
  rename_i userLogin found
  split at updated
  · cases updated
    have active : ¬access.accounts.IsDeleted userLogin.owner := Store.not_isDeleted found
    exact ⟨rfl, fun owner deleted => deleted.putLogin active⟩
  · cases updated

namespace AdminUserService

variable {settings : AccessSettings}

theorem onlyTables_createOne (id : Uuid) (dto : AdminUserDto) :
    ∀ command ∈ createOne settings id dto, OnlyTables command := by
  rw [createOne, List.forall_mem_cons, List.forall_mem_singleton]
  exact ⟨onlyTables_saveAdminUser _ _, onlyTables_createAdminLogin _ _ _ _⟩

theorem onlyTables_overrideReplaceOne (id : Uuid) (dto : AdminUserDto) :
    ∀ command ∈ overrideReplaceOne settings id dto, OnlyTables command := by
  rw [overrideReplaceOne, List.forall_mem_cons, List.forall_mem_singleton]
  exact ⟨onlyTables_saveAdminUser _ _, onlyTables_updateAdminLogin _ _ _ _⟩

end AdminUserService

/-! ### What a step does -/

/-- What a user is made tokens for: a password, or a token of a user with the same identifier. -/
inductive Origin (settings : AccessSettings) (access : Access) (action : AccessAction)
    (userLogin : UserLogin) : Prop where
  | login (credential : LoginCredentialDto)
    (operation : action.operation = .login userLogin.userType credential)
    (checked : settings.check credential.password userLogin.passwordHash = true)
  | refresh (token : Jwt) (operation : action.operation = .refreshToken userLogin.userType token)
    (verified : JwtService.verify access action.now token = true)
    (same : token.sub = userLogin.userId)

/-- Where a step leads. -/
inductive Outcome (settings : AccessSettings) (access : Access) (action : AccessAction) :
    Access → Prop where
  | tables {after : Access} (changed : TablesChanged access after) :
    Outcome settings access action after
  | signed (userLogin : UserLogin) (token : AccessToken) (isLogin : UserType × Uuid → Bool)
    (active : access.findLogin userLogin.owner = some userLogin)
    (made : AuthService.createAccessToken settings access action.now userLogin = .ok token)
    (origin : Origin settings access action userLogin) :
    Outcome settings access action
      { access with
        isLogin
        signed := token.accessToken :: token.refreshToken :: access.signed }
  | requested (userLogin : UserLogin) (published : List AdminPasswordResetEvent)
    (active : access.findLogin userLogin.owner = some userLogin)
    (sent : ∀ event ∈ published, event ∈ access.published ∨
      (userLogin.owner = (.admin, event.user.id) ∧ event.passwordResetToken =
        VerificationTokenGenerator.generateVerificationToken action.now action.publicId)) :
    Outcome settings access action
      { access.request userLogin action.now action.publicId with published }
  | settled (userLogin : UserLogin) (password : String) (token : Option (List Char))
    (active : access.findLogin userLogin.owner = some userLogin)
    (held : ∀ used, token = some used → access.passwordResetToken userLogin.owner = some used) :
    Outcome settings access action (access.settle settings userLogin password token)

variable {settings : AccessSettings} {access : Access} {action : AccessAction}

namespace Outcome

theorem same : Outcome settings access action access :=
  .tables (.refl access)

theorem carriedOut {commands : List AccessCommand}
    (onlyTables : ∀ command ∈ commands, OnlyTables command) (reach : Nat) :
    Outcome settings access action (carryOut commands reach access) :=
  .tables (OnlyTables.carryOut onlyTables reach access)

theorem savePassword {owner : UserType × Uuid} {userLogin : UserLogin}
    (found : access.findLogin owner = some userLogin) (password : String) :
    Outcome settings access action (access.savePassword settings userLogin password) := by
  have active : ¬access.accounts.IsDeleted userLogin.owner := Store.not_isDeleted found
  exact .tables ⟨rfl, fun owner deleted => deleted.putLogin active⟩

/-- Tokens that have been made are signed, whatever becomes of the status. -/
theorem sign {userLogin : UserLogin} (isLogin : UserType × Uuid → Bool)
    (active : access.findLogin userLogin.owner = some userLogin)
    (origin : Origin settings access action userLogin) :
    Outcome settings access action (Access.sign { access with isLogin }
      (AuthService.createAccessToken settings access action.now userLogin)) := by
  cases made : AuthService.createAccessToken settings access action.now userLogin with
  | error error => exact .tables ⟨rfl, fun _ deleted => deleted⟩
  | ok token => exact .signed userLogin token isLogin active made origin

theorem login {userType : UserType} {credential : LoginCredentialDto}
    (operation : action.operation = .login userType credential) :
    Outcome settings access action
      (AuthService.login settings access action.now userType credential).2 := by
  rw [AuthService.login]
  cases valid : AuthService.validateUserLogin settings access userType
      (settings.toLowerCase credential.username) credential.password with
  | error error => exact same
  | ok userLogin =>
    rw [AuthService.validateUserLogin] at valid
    split at valid
    · cases valid
    rename_i found query
    split at valid
    · rename_i checked
      cases valid
      obtain ⟨active, criteria⟩ := Access.findOne_spec query
      obtain ⟨rfl, -⟩ := of_decide_eq_true criteria
      exact sign _ active (.login credential operation checked)
    · cases valid

theorem logout (userType : UserType) (userId : Uuid) :
    Outcome settings access action (AuthService.logout access userType userId).2 := by
  rw [AuthService.logout]
  split
  · exact same
  · exact .tables ⟨rfl, fun _ deleted => deleted⟩

theorem refreshAccessToken {userType : UserType} {token : Jwt}
    (operation : action.operation = .refreshToken userType token) :
    Outcome settings access action
      (AuthService.refreshAccessToken settings access action.now userType token).2 := by
  rw [AuthService.refreshAccessToken]
  split
  · rename_i verified
    split
    · exact same
    rename_i userLogin active
    have owned : userLogin.owner = (userType, token.sub) := (Access.findLogin_spec active).2.1
    obtain ⟨rfl, sameId⟩ := Prod.ext_iff.mp owned
    rw [← owned] at active
    exact sign _ active (.refresh token operation verified sameId.symm)
  · exact same

theorem updatePassword (userType : UserType) (userId : Uuid)
    (currentPassword newPassword : String) :
    Outcome settings access action (AuthService.updatePassword settings access userType userId
      currentPassword newPassword).2 := by
  rw [AuthService.updatePassword]
  split
  · exact same
  rename_i userLogin found
  split
  · exact savePassword found newPassword
  · exact same

theorem setPasswordResetToken (userType : UserType) (username : String) :
    Outcome settings access action (AuthService.setPasswordResetToken settings access action.now
      action.publicId userType username).2 := by
  rw [AuthService.setPasswordResetToken]
  split
  · exact same
  rename_i userLogin query
  split
  · exact same
  rename_i user found
  obtain ⟨active, criteria⟩ := Access.findOne_spec query
  obtain ⟨rfl, -⟩ := of_decide_eq_true criteria
  split
  · rename_i isAdmin
    refine .requested userLogin _ active fun event member => ?_
    obtain rfl | earlier := List.mem_cons.mp member
    · have same := (access.adminUsers.find_key found).2
      exact .inr ⟨Prod.ext isAdmin same.symm, rfl⟩
    · exact .inl earlier
  · exact .requested userLogin access.published active fun _ => .inl

theorem resetPasswordByToken (now : Instant) (token : Option (List Char)) (password : String) :
    Outcome settings access action
      (AuthService.resetPasswordByToken settings access now token password).2 := by
  rw [AuthService.resetPasswordByToken.eq_def]
  split
  · split <;> exact same
  rename_i token
  split
  · exact same
  rename_i userLogin query
  obtain ⟨active, held⟩ := Access.findOne_spec query
  split
  · refine .settled userLogin password (some token) active fun used own => ?_
    rw [← Option.some.inj own]
    exact of_decide_eq_true held
  · exact same

theorem resetPasswordByOtpToken (now : Instant) (verifications : List PhoneVerification)
    (databaseNow : Time) (otpToken : Int) (phoneNumber password : String) :
    Outcome settings access action (AuthService.resetPasswordByOtpToken settings access now
      verifications databaseNow otpToken phoneNumber password).2 := by
  rw [AuthService.resetPasswordByOtpToken]
  split
  · exact same
  rename_i userLogin query
  split
  · exact same
  split
  · exact same
  split
  · exact same
  · exact .settled userLogin password none (Access.findOne_spec query).1 nofun

end Outcome

theorem Access.step_outcome (settings : AccessSettings) (access : Access) (action : AccessAction) :
    Outcome settings access action (access.step settings action) := by
  rw [Access.step]
  split
  · rename_i account _
    exact .tables ⟨rfl, fun _ deleted => deleted.step settings.toAccountSettings account⟩
  · exact .tables ⟨rfl, fun _ deleted => deleted⟩
  · exact .carriedOut (AdminUserService.onlyTables_createOne _ _) _
  · exact .carriedOut (AdminUserService.onlyTables_overrideReplaceOne _ _) _
  · exact .tables ⟨rfl, fun _ deleted => deleted⟩
  · exact .login ‹_›
  · split
    · exact .same
    · exact .logout _ _
  · exact .refreshAccessToken ‹_›
  · split
    · exact .same
    · exact .updatePassword _ _ _ _
  · exact .setPasswordResetToken _ _
  · exact .resetPasswordByToken _ _ _
  · exact .resetPasswordByOtpToken _ _ _ _ _ _

/-- A deleted login stays deleted. -/
theorem Outcome.isDeleted {after : Access} (outcome : Outcome settings access action after)
    {owner : UserType × Uuid} (deleted : access.accounts.IsDeleted owner) :
    after.accounts.IsDeleted owner := by
  cases outcome with
  | tables changed => exact changed.deleted owner deleted
  | signed => exact deleted
  | requested => exact deleted
  | settled userLogin password token active held =>
    have other : ¬access.accounts.IsDeleted userLogin.owner := Store.not_isDeleted active
    exact deleted.putLogin other

end FieldService.Accounts
