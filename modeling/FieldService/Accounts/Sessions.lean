/-
This file shows what stands behind a token that somebody comes in with.

Whoever comes in has signed in with a password, and has exchanged tokens since that had not run out.
A user who may not sign in any more is not let in any more once the tokens that were signed before
have run out: for good if the login is deleted, and otherwise for as long as the provider is banned
or the profile is missing.
-/

import FieldService.Accounts.Steps

namespace FieldService.Accounts

open Auth Commands Dates Execution

variable {settings : AccessSettings} {access after : Access} {action : AccessAction}

/-- Whose token it is. -/
def AccessTokenPayload.owner (payload : AccessTokenPayload) : UserType × Uuid :=
  (payload.aud, payload.sub)

/-! ### What is signed -/

/-- A user whose profile is missing, or a provider who is banned. -/
def Access.Refuses (access : Access) : UserType × Uuid → Prop
  | (.admin, id) => access.adminUsers.find id = none
  | (.provider, id) => access.findProvider id = none ∨ access.generalStatus id = .banned

namespace AuthService

theorem buildAccessTokenPayload_spec {userType : UserType} {userId : Uuid}
    {groups : List ServiceProviderType} {payload : AccessTokenPayload}
    (built : buildAccessTokenPayload access userType userId groups = .ok payload) :
    payload.owner = (userType, userId) ∧ ¬access.Refuses (userType, userId) := by
  cases userType with
  | admin =>
    simp only [buildAccessTokenPayload] at built
    split at built
    · cases built
    rename_i adminUser found
    cases built
    have same := (access.adminUsers.find_key found).2
    refine ⟨Prod.ext rfl same, fun refuses => ?_⟩
    rw [Access.Refuses, found] at refuses
    cases refuses
  | provider =>
    simp only [buildAccessTokenPayload] at built
    split at built
    · cases built
    rename_i serviceProvider found
    split at built
    · cases built
    rename_i allowed
    cases built
    have same := (access.accounts.providers.find_key (Option.filter_eq_some_iff.mp found).1).2
    refine ⟨Prod.ext rfl same, fun refuses => ?_⟩
    obtain missing | banned := refuses
    · rw [found] at missing
      cases missing
    · exact allowed banned

theorem createAccessToken_spec {now : Instant} {userLogin : UserLogin} {token : AccessToken}
    (made : createAccessToken settings access now userLogin = .ok token) :
    ¬access.Refuses userLogin.owner ∧ ∀ jwt ∈ [token.accessToken, token.refreshToken],
      jwt.owner = userLogin.owner ∧
        jwt.exp ≤ seconds now +
          max settings.jwtTokenExpirationTime settings.jwtRefreshTokenExpirationTime := by
  rw [createAccessToken] at made
  cases built : buildAccessTokenPayload access userLogin.userType userLogin.userId
      userLogin.groups with
  | error error =>
    rw [built] at made
    cases made
  | ok payload =>
    rw [built] at made
    cases made
    obtain ⟨owned, allowed⟩ := buildAccessTokenPayload_spec built
    refine ⟨allowed, ?_⟩
    rw [List.forall_mem_cons, List.forall_mem_singleton]
    refine ⟨⟨owned, ?_⟩, owned, ?_⟩
    · simp only [JwtService.sign]
      omega
    · simp only [JwtService.sign]
      omega

end AuthService

/-- A token is made for a login that is found and whose user is not refused. -/
structure Makes (settings : AccessSettings) (access : Access) (action : AccessAction)
    (userLogin : UserLogin) (token : Jwt) : Prop where
  active : access.findLogin userLogin.owner = some userLogin
  allowed : ¬access.Refuses userLogin.owner
  owner : token.owner = userLogin.owner
  exp : token.exp ≤ seconds action.now +
    max settings.jwtTokenExpirationTime settings.jwtRefreshTokenExpirationTime
  origin : Origin settings access action userLogin

theorem Outcome.mem_signed (outcome : Outcome settings access action after) {token : Jwt}
    (member : token ∈ after.signed) :
    token ∈ access.signed ∨ ∃ userLogin, Makes settings access action userLogin token := by
  cases outcome with
  | tables changed =>
    rw [changed.others] at member
    exact .inl member
  | signed userLogin made isLogin active makes origin =>
    obtain ⟨allowed, each⟩ := AuthService.createAccessToken_spec makes
    have new (own : token ∈ [made.accessToken, made.refreshToken]) :
        Makes settings access action userLogin token :=
      ⟨active, allowed, (each token own).1, (each token own).2, origin⟩
    obtain rfl | others := List.mem_cons.mp member
    · exact .inr ⟨userLogin, new (by simp)⟩
    obtain rfl | earlier := List.mem_cons.mp others
    · exact .inr ⟨userLogin, new (by simp)⟩
    · exact .inl earlier
  | requested => exact .inl member
  | settled => exact .inl member

/-! ### Where a token comes from -/

/-- Somewhere in the run a user with the identifier has signed in with the password of a login that
is there. -/
def SignedIn (settings : AccessSettings) (start : Access) (actions : List AccessAction)
    (userId : Uuid) : Prop :=
  ∃ earlier action later credential userLogin, actions = earlier ++ action :: later ∧
    action.operation = .login userLogin.userType credential ∧
    (run (Access.step settings) start earlier).findLogin userLogin.owner = some userLogin ∧
    userLogin.userId = userId ∧
    settings.check credential.password userLogin.passwordHash = true

theorem SignedIn.append {start : Access} {actions : List AccessAction} {userId : Uuid}
    (signedIn : SignedIn settings start actions userId) (others : List AccessAction) :
    SignedIn settings start (actions ++ others) userId := by
  obtain ⟨earlier, action, later, credential, userLogin, rfl, rest⟩ := signedIn
  exact ⟨earlier, action, later ++ others, credential, userLogin, by simp, rest⟩

/-- A token is made in a step of the run, for a user with an identifier that has signed in. -/
def MadeIn (settings : AccessSettings) (start : Access) (actions : List AccessAction)
    (token : Jwt) : Prop :=
  ∃ earlier action later userLogin, actions = earlier ++ action :: later ∧
    Makes settings (run (Access.step settings) start earlier) action userLogin token ∧
    SignedIn settings start (earlier ++ [action]) token.sub

theorem MadeIn.append {start : Access} {actions : List AccessAction} {token : Jwt}
    (madeIn : MadeIn settings start actions token) (others : List AccessAction) :
    MadeIn settings start (actions ++ others) token := by
  obtain ⟨earlier, action, later, userLogin, rfl, rest⟩ := madeIn
  exact ⟨earlier, action, later ++ others, userLogin, by simp, rest⟩

/-- By induction on the run: a token that is exchanged has been made before. -/
theorem madeIn_of_mem (settings : AccessSettings) {start : Access} (unsigned : start.signed = [])
    (actions : List AccessAction) :
    ∀ token ∈ (run (Access.step settings) start actions).signed,
      MadeIn settings start actions token := by
  induction actions using List.reverseRecOn with
  | nil =>
    intro token member
    rw [run_nil, unsigned] at member
    cases member
  | append_singleton actions action inductionHypothesis =>
    intro token member
    rw [run_append] at member
    obtain before | ⟨userLogin, made⟩ :=
      ((run (Access.step settings) start actions).step_outcome settings action).mem_signed member
    · exact (inductionHypothesis token before).append [action]
    refine ⟨actions, action, [], userLogin, rfl, made, ?_⟩
    have sameId : token.sub = userLogin.userId := congrArg Prod.snd made.owner
    rw [sameId]
    cases made.origin with
    | login credential operation checked =>
      exact ⟨actions, action, [], credential, userLogin, rfl, operation, made.active, rfl, checked⟩
    | refresh exchanged operation verified same =>
      rw [← same]
      obtain ⟨known, -⟩ := of_decide_eq_true verified
      obtain ⟨earlier, first, later, _, whole, -, signedIn⟩ := inductionHypothesis exchanged known
      have parts : actions ++ [action] = (earlier ++ [first]) ++ (later ++ [action]) := by
        rw [whole]
        simp
      rw [parts]
      exact signedIn.append (later ++ [action])

/-- Whoever comes in does so with a token that was made, not longer ago than a token lasts, for a
login that was there, of a user who had a profile and was not banned; and before that a user with
the same identifier signed in with a password. -/
theorem madeIn_of_admitted (settings : AccessSettings) (accounts : Store)
    (adminUsers : Table Uuid AdminUser AdminUser.id) (generalStatus : Uuid → UserStatus)
    (actions : List AccessAction) (now : Instant) (token : Jwt) (user : AccessTokenPayload)
    (admitted : JwtAuthGuard.canActivate (run (Access.step settings)
      (Access.start accounts adminUsers generalStatus) actions) now token = some user) :
    ∃ earlier action later userLogin, actions = earlier ++ action :: later ∧
      user.owner = userLogin.owner ∧
      (run (Access.step settings) (Access.start accounts adminUsers generalStatus)
        earlier).findLogin userLogin.owner = some userLogin ∧
      ¬(run (Access.step settings) (Access.start accounts adminUsers generalStatus)
        earlier).Refuses userLogin.owner ∧
      seconds now < seconds action.now +
        max settings.jwtTokenExpirationTime settings.jwtRefreshTokenExpirationTime ∧
      SignedIn settings (Access.start accounts adminUsers generalStatus) (earlier ++ [action])
        user.sub := by
  rw [JwtAuthGuard.canActivate] at admitted
  split at admitted
  · rename_i verified
    obtain ⟨member, unexpired⟩ := of_decide_eq_true verified
    cases admitted
    obtain ⟨earlier, action, later, userLogin, whole, made, signedIn⟩ :=
      madeIn_of_mem settings rfl actions token member
    exact ⟨earlier, action, later, userLogin, whole, made.owner, made.active, made.allowed,
      unexpired.trans_le made.exp, signedIn⟩
  · cases admitted

/-- A provider is created and signs in. -/
def exampleSessionActions : List AccessAction :=
  let profile : ProfileDto := ⟨none, "60123456789", "sp@example.com", none, .undefined⟩
  [⟨.account ⟨.createProvider ⟨profile, some "secret"⟩,
      ⟨⟨"7b01", by decide⟩, ⟨0, ⟨"7b02", by decide⟩⟩⟩, 4⟩, exampleInstant, []⟩,
    ⟨.login .provider ⟨"60123456789", "secret"⟩, exampleInstant, []⟩]

def exampleSessionToken : Jwt :=
  ⟨⟨⟨"7b01", by decide⟩, .provider, "60123456789", [.independent]⟩, .bearer, 1600000000,
    1602592000⟩

theorem madeIn_of_admitted_signed :
    ∃ earlier action later userLogin, exampleSessionActions = earlier ++ action :: later ∧
      exampleSessionToken.owner = userLogin.owner ∧
      (run (Access.step exampleAccessSettings) (Access.start .empty .empty fun _ => .active)
        earlier).findLogin userLogin.owner = some userLogin ∧
      ¬(run (Access.step exampleAccessSettings) (Access.start .empty .empty fun _ => .active)
        earlier).Refuses userLogin.owner ∧
      seconds exampleInstant < seconds action.now +
        max exampleAccessSettings.jwtTokenExpirationTime
          exampleAccessSettings.jwtRefreshTokenExpirationTime ∧
      SignedIn exampleAccessSettings (Access.start .empty .empty fun _ => .active)
        (earlier ++ [action]) exampleSessionToken.sub :=
  madeIn_of_admitted exampleAccessSettings .empty .empty (fun _ => .active) exampleSessionActions
    exampleInstant exampleSessionToken exampleSessionToken.toAccessTokenPayload
    (by decide +kernel)

/-! ### Users who may not sign in -/

namespace Access

/-- The tokens of the user have run out by then. -/
def EndsBy (access : Access) (owner : UserType × Uuid) (latest : Int) : Prop :=
  ∀ token ∈ access.signed, token.owner = owner → token.exp ≤ latest

theorem endsBy_run {latest : Int} (owner : UserType × Uuid) (actions : List AccessAction)
    (early : ∀ action ∈ actions, seconds action.now +
      max settings.jwtTokenExpirationTime settings.jwtRefreshTokenExpirationTime ≤ latest)
    (start : access.EndsBy owner latest) :
    (run (step settings) access actions).EndsBy owner latest := by
  refine invariant_run (step settings) (fun _ action => seconds action.now +
      max settings.jwtTokenExpirationTime settings.jwtRefreshTokenExpirationTime ≤ latest)
    (·.EndsBy owner latest) (fun state action ends inTime token member owned => ?_) access actions
    start (along_of_actions (step settings) (fun action member _ => early action member) access)
  obtain before | ⟨userLogin, made⟩ := (state.step_outcome settings action).mem_signed member
  · exact ends token before owned
  · exact made.exp.trans inTime

/-- Nothing is made for a user who is refused or whose login is deleted. -/
theorem endsBy_step {owner : UserType × Uuid} {latest : Int}
    (barred : access.accounts.IsDeleted owner ∨ access.Refuses owner)
    (ends : access.EndsBy owner latest) (action : AccessAction) :
    (access.step settings action).EndsBy owner latest := by
  intro token member owned
  obtain before | ⟨userLogin, made⟩ := (access.step_outcome settings action).mem_signed member
  · exact ends token before owned
  · rw [← owned, made.owner] at barred
    obtain deleted | refuses := barred
    · exact absurd deleted (Store.not_isDeleted made.active)
    · exact absurd refuses made.allowed

theorem endsBy_of_barred {owner : UserType × Uuid} {latest : Int} (actions : List AccessAction)
    (barred : Throughout (step settings)
      (fun access => access.accounts.IsDeleted owner ∨ access.Refuses owner) access actions)
    (ends : access.EndsBy owner latest) :
    (run (step settings) access actions).EndsBy owner latest := by
  induction actions generalizing access with
  | nil => exact ends
  | cons action rest inductionHypothesis =>
    rw [throughout_cons] at barred
    exact inductionHypothesis barred.2 (endsBy_step barred.1 ends action)

/-- A login that is deleted is deleted for good. -/
theorem throughout_isDeleted {owner : UserType × Uuid} (actions : List AccessAction)
    (deleted : access.accounts.IsDeleted owner) :
    Throughout (step settings) (·.accounts.IsDeleted owner) access actions :=
  throughout_of_preserved (step settings) (·.accounts.IsDeleted owner)
    (·.accounts.IsDeleted owner)
    (fun state action deleted => (state.step_outcome settings action).isDeleted deleted)
    (fun _ => id) access actions deleted

end Access

/-- Once a login is deleted, nobody comes in with a token of its user any more when the longer of
the two times of a token has gone by, whatever is done in between. The same is true of a user whose
profile is missing, or who is banned, as long as that lasts. -/
theorem not_admitted_of_barred (settings : AccessSettings) (accounts : Store)
    (adminUsers : Table Uuid AdminUser AdminUser.id) (generalStatus : Uuid → UserStatus)
    (before after : List AccessAction) (owner : UserType × Uuid) (latest : Int)
    (early : ∀ action ∈ before, seconds action.now ≤ latest)
    (barred : (run (Access.step settings) (Access.start accounts adminUsers generalStatus)
        before).accounts.IsDeleted owner ∨
      Throughout (Access.step settings) (·.Refuses owner)
        (run (Access.step settings) (Access.start accounts adminUsers generalStatus) before) after)
    (token : Jwt) (owned : token.owner = owner) (now : Instant)
    (late : latest + max settings.jwtTokenExpirationTime settings.jwtRefreshTokenExpirationTime ≤
      seconds now) :
    JwtAuthGuard.canActivate (run (Access.step settings)
      (Access.start accounts adminUsers generalStatus) (before ++ after)) now token = none := by
  have start : (Access.start accounts adminUsers generalStatus).EndsBy owner
      (latest + max settings.jwtTokenExpirationTime settings.jwtRefreshTokenExpirationTime) :=
    nofun
  have endsBefore := Access.endsBy_run owner before
    (fun action member => Int.add_le_add_right (early action member) _) start
  have throughout : Throughout (Access.step settings)
      (fun access => access.accounts.IsDeleted owner ∨ access.Refuses owner)
      (run (Access.step settings) (Access.start accounts adminUsers generalStatus) before)
      after := by
    obtain deleted | refuses := barred
    · exact fun earlier initial => .inl (Access.throughout_isDeleted after deleted earlier initial)
    · exact fun earlier initial => .inr (refuses earlier initial)
  have ends := Access.endsBy_of_barred after throughout endsBefore
  rw [← run_append] at ends
  rw [JwtAuthGuard.canActivate, if_neg]
  intro verified
  obtain ⟨member, unexpired⟩ := of_decide_eq_true verified
  have runsOut := ends token member owned
  omega

/-- The provider that has signed in is deleted, and its token lasts for thirty days. -/
theorem not_admitted_of_barred_deleted :
    JwtAuthGuard.canActivate (run (Access.step exampleAccessSettings)
      (Access.start .empty .empty fun _ => .active) ((exampleSessionActions ++
        [⟨.account ⟨.deleteProvider ⟨"7b01", by decide⟩, ⟨⟨"7b03", by decide⟩,
          ⟨1, ⟨"7b04", by decide⟩⟩⟩, 3⟩, exampleInstant, []⟩]) ++ []))
      ⟨1602592000000, by decide⟩ exampleSessionToken = none :=
  not_admitted_of_barred exampleAccessSettings .empty .empty (fun _ => .active) _ []
    (.provider, ⟨"7b01", by decide⟩) 1600000000 (by decide +kernel)
    (.inl ⟨⟨.provider, ⟨"7b01", by decide⟩, "60123456789", some "sp@example.com",
      "hash of secret", [.independent], some ⟨1, ⟨"7b04", by decide⟩⟩⟩, by decide +kernel,
      by decide⟩)
    exampleSessionToken rfl _ (by decide)

end FieldService.Accounts
