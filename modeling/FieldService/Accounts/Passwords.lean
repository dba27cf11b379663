/-
This file settles which password is reset by a token.

A token tells its own age, because the instant it begins with is read again as it was written, and
two tokens are never the same as long as no identifier is drawn twice. So whatever else happens to
the accounts, the token kept with a login is the one that was requested last, unless the password
has been reset since.
-/

import FieldService.Accounts.Steps

namespace FieldService.Accounts

open Auth Commands Dates Execution

/-! ### The text of a token -/

namespace VerificationTokenGenerator

/-- What follows the first underscore. -/
def publicIdOf (token : List Char) : List Char :=
  (token.dropWhile (· ≠ '_')).tail

theorem bytes_isoText (now : Instant) :
    ∀ byte ∈ (isoText now.milliseconds).map Char.toNat, byte < 256 := by
  intro byte member
  obtain ⟨character, inText, rfl⟩ := List.mem_map.mp member
  exact (toNat_lt_of_mem_isoText now.milliseconds character inText).trans (by decide)

/-- No underscore comes before the first. -/
theorem not_underscore (now : Instant) :
    ∀ character ∈ Base64.encode ((isoText now.milliseconds).map Char.toNat),
      decide (character ≠ '_') = true := by
  intro character member
  refine decide_eq_true fun same => ?_
  rw [same] at member
  exact Base64.underscore_notMem_encode _ (bytes_isoText now) member

theorem publicIdOf_generate (now : Instant) (publicId : List Char) :
    publicIdOf (generateVerificationToken now publicId) = publicId := by
  rw [publicIdOf, generateVerificationToken, List.dropWhile_append_of_pos (not_underscore now)]
  rfl

/-- A token that has been generated is verified by its age. -/
theorem verify_generate (duration : Int) (now later : Instant) (publicId : List Char) :
    verifyVerificationToken duration later (generateVerificationToken now publicId) =
      decide (later.milliseconds - now.milliseconds < duration) := by
  have generatedOn : (generateVerificationToken now publicId).takeWhile (· ≠ '_') =
      Base64.encode ((isoText now.milliseconds).map Char.toNat) := by
    rw [generateVerificationToken, List.takeWhile_append_of_pos (not_underscore now),
      List.takeWhile_cons_of_neg (by decide), List.append_nil]
  have text : ((isoText now.milliseconds).map Char.toNat).map Char.ofNat =
      isoText now.milliseconds := by
    rw [List.map_map]
    exact List.map_id'' Char.ofNat_toNat _
  rw [verifyVerificationToken, generatedOn, Base64.decode_encode _ (bytes_isoText now), text,
    readIso_isoText_instant]

end VerificationTokenGenerator

open VerificationTokenGenerator

/-! ### What a step does to the tokens -/

namespace TokenEvent

/-- What is kept with the login from then on. -/
def token : TokenEvent → Option (List Char)
  | .requested _ now publicId => some (generateVerificationToken now publicId)
  | .settled _ _ => none

/-- The token that is used up. -/
def usedToken : TokenEvent → Option (List Char)
  | .requested _ _ _ => none
  | .settled _ token => token

end TokenEvent

/-- An administrator is sent the token that is stored with its own login. -/
def AdminPasswordResetEvent.IsFor (sent : AdminPasswordResetEvent) (event : TokenEvent) : Prop :=
  event.owner = (.admin, sent.user.id) ∧ event.token = some sent.passwordResetToken

variable {settings : AccessSettings} {access after : Access} {action : AccessAction}

/-- How the tokens are after a step: as before, or as an event leaves them. A token is used up only
by the login it is kept with. -/
inductive TokensAfter (access after : Access) (action : AccessAction) : Prop where
  | kept (column : after.passwordResetToken = access.passwordResetToken)
    (history : after.history = access.history) (published : after.published = access.published)
  | happened (event : TokenEvent)
    (column : after.passwordResetToken =
      Function.update access.passwordResetToken event.owner event.token)
    (history : after.history = event :: access.history)
    (drawn : ∀ token, event.token = some token → publicIdOf token = action.publicId)
    (held : ∀ token, event.usedToken = some token →
      access.passwordResetToken event.owner = some token)
    (published : ∀ sent ∈ after.published, sent ∈ access.published ∨ sent.IsFor event)

theorem Outcome.tokensAfter (outcome : Outcome settings access action after) :
    TokensAfter access after action := by
  cases outcome with
  | tables changed =>
    have others := changed.others
    exact .kept (by rw [others]) (by rw [others]) (by rw [others])
  | signed => exact .kept rfl rfl rfl
  | requested userLogin published active sent =>
    refine .happened (.requested userLogin.owner action.now action.publicId) rfl rfl ?_ nofun ?_
    · intro token own
      rw [← Option.some.inj own, publicIdOf_generate]
    · intro event member
      exact (sent event member).imp_right fun isFor => ⟨isFor.1, congrArg some isFor.2.symm⟩
  | settled userLogin password token active held =>
    exact .happened (.settled userLogin.owner token) rfl rfl nofun held fun _ => .inl

/-! ### Whole runs -/

namespace Access

/-- What happened last to the tokens of a login. -/
def lastEvent (access : Access) (owner : UserType × Uuid) : Option TokenEvent :=
  access.history.find? (·.owner = owner)

/-- The tokens that have been used up. -/
def usedTokens (access : Access) : List (List Char) :=
  access.history.filterMap (·.usedToken)

/-- The tokens that are kept are those that the last events have left, each with one login, and none
of them is used up. -/
structure Recorded (access : Access) (drawn : List (List Char)) : Prop where
  column : ∀ owner, access.passwordResetToken owner = (access.lastEvent owner).bind (·.token)
  known : ∀ owner token, access.passwordResetToken owner = some token → publicIdOf token ∈ drawn
  apart : ∀ owner other token, access.passwordResetToken owner = some token →
    access.passwordResetToken other = some token → owner = other
  used : access.usedTokens.Nodup
  gone : ∀ token ∈ access.usedTokens, publicIdOf token ∈ drawn ∧
    ∀ owner, access.passwordResetToken owner ≠ some token
  sent : ∀ sent ∈ access.published, ∃ event ∈ access.history, sent.IsFor event

theorem recorded_start (accounts : Store) (adminUsers : Table Uuid AdminUser AdminUser.id)
    (generalStatus : Uuid → UserStatus) :
    (start accounts adminUsers generalStatus).Recorded [] where
  column _ := rfl
  known _ _ stored := nomatch stored
  apart _ _ _ stored := nomatch stored
  used := List.nodup_nil
  gone _ member := nomatch member
  sent _ member := nomatch member

variable {drawn : List (List Char)}

theorem lastEvent_cons {event : TokenEvent} (history : after.history = event :: access.history)
    (owner : UserType × Uuid) :
    after.lastEvent owner = if event.owner = owner then some event else access.lastEvent owner := by
  rw [lastEvent, history, List.find?_cons]
  split
  · rename_i same
    rw [if_pos (of_decide_eq_true same)]
  · rename_i other
    rw [if_neg (of_decide_eq_false other), lastEvent]

/-- A token that is kept after an event was kept before it, or is the one of the event. -/
theorem column_happened {event : TokenEvent} {owner : UserType × Uuid} {token : List Char}
    (column : after.passwordResetToken =
      Function.update access.passwordResetToken event.owner event.token)
    (stored : after.passwordResetToken owner = some token) :
    (owner = event.owner ∧ event.token = some token) ∨
      (owner ≠ event.owner ∧ access.passwordResetToken owner = some token) := by
  rw [column] at stored
  by_cases own : owner = event.owner
  · rw [own, Function.update_self] at stored
    exact .inl ⟨own, stored⟩
  · rw [Function.update_of_ne own] at stored
    exact .inr ⟨own, stored⟩

theorem usedTokens_cons {event : TokenEvent} (history : after.history = event :: access.history) :
    after.usedTokens = event.usedToken.toList ++ access.usedTokens := by
  rw [usedTokens, history, List.filterMap_cons]
  cases event.usedToken <;> rfl

theorem Recorded.mono {others : List (List Char)} (recorded : access.Recorded drawn)
    (more : drawn ⊆ others) : access.Recorded others :=
  { recorded with
    known := fun owner token stored => more (recorded.known owner token stored)
    gone := fun token member => (recorded.gone token member).imp_left fun known => more known }

theorem Recorded.tokensAfter (recorded : access.Recorded drawn)
    (tokensAfter : TokensAfter access after action) (fresh : action.publicId ∉ drawn) :
    after.Recorded (action.publicId :: drawn) := by
  cases tokensAfter with
  | kept column history published =>
    have same := recorded.mono (List.subset_cons_self action.publicId drawn)
    refine ⟨?_, ?_, ?_, ?_, ?_, ?_⟩
    · simpa only [column, lastEvent, history] using same.column
    · simpa only [column] using same.known
    · simpa only [column] using same.apart
    · simpa only [usedTokens, history] using same.used
    · simpa only [usedTokens, history, column] using same.gone
    · simpa only [published, history] using same.sent
  | happened event column history new held published =>
    have notDrawn {token : List Char} (own : event.token = some token) : publicIdOf token ∉ drawn :=
      new token own ▸ fresh
    refine ⟨fun owner => ?_, fun owner token stored => ?_, fun owner other token stored again => ?_,
      ?_, fun token member => ?_, fun sent member => ?_⟩
    · rw [lastEvent_cons history, column]
      by_cases own : event.owner = owner
      · rw [if_pos own, ← own, Function.update_self, Option.bind_some]
      · rw [if_neg own, Function.update_of_ne (Ne.symm own), recorded.column]
    · obtain ⟨-, own⟩ | ⟨-, before⟩ := column_happened column stored
      · exact new token own ▸ List.mem_cons_self
      · exact List.mem_cons_of_mem _ (recorded.known owner token before)
    · obtain ⟨owned, own⟩ | ⟨-, before⟩ := column_happened column stored
      · obtain ⟨alsoOwned, -⟩ | ⟨-, before⟩ := column_happened column again
        · exact owned.trans alsoOwned.symm
        · exact absurd (recorded.known other token before) (notDrawn own)
      · obtain ⟨-, own⟩ | ⟨-, beforeToo⟩ := column_happened column again
        · exact absurd (recorded.known owner token before) (notDrawn own)
        · exact recorded.apart owner other token before beforeToo
    · rw [usedTokens_cons history]
      cases used : event.usedToken with
      | none => exact recorded.used
      | some token =>
        refine List.nodup_cons.mpr ⟨fun member => ?_, recorded.used⟩
        exact (recorded.gone token member).2 event.owner (held token used)
    · have before : publicIdOf token ∈ drawn ∧
          ∀ owner ≠ event.owner, access.passwordResetToken owner ≠ some token := by
        rw [usedTokens_cons history, List.mem_append, Option.mem_toList] at member
        obtain used | earlier := member
        · have own := held token used
          refine ⟨recorded.known event.owner token own, fun owner other stored => other ?_⟩
          exact recorded.apart owner event.owner token stored own
        · obtain ⟨known, gone⟩ := recorded.gone token earlier
          exact ⟨known, fun owner _ => gone owner⟩
      refine ⟨List.mem_cons_of_mem _ before.1, fun owner stored => ?_⟩
      obtain ⟨-, own⟩ | ⟨other, earlier⟩ := column_happened column stored
      · exact notDrawn own before.1
      · exact before.2 owner other earlier
    · rw [history]
      obtain earlier | isFor := published sent member
      · obtain ⟨other, happened, isFor⟩ := recorded.sent sent earlier
        exact ⟨other, List.mem_cons_of_mem event happened, isFor⟩
      · exact ⟨event, List.mem_cons_self, isFor⟩

theorem recorded_run (settings : AccessSettings) (actions : List AccessAction)
    (recorded : access.Recorded drawn) (distinct : (actions.map (·.publicId)).Nodup)
    (fresh : ∀ action ∈ actions, action.publicId ∉ drawn) :
    ∃ others, (run (step settings) access actions).Recorded others := by
  induction actions generalizing access drawn with
  | nil => exact ⟨drawn, recorded⟩
  | cons action rest inductionHypothesis =>
    obtain ⟨notLater, distinctRest⟩ := List.nodup_cons.mp distinct
    have next := recorded.tokensAfter ((access.step_outcome settings action).tokensAfter)
      (fresh action List.mem_cons_self)
    refine inductionHypothesis next distinctRest fun later member => ?_
    rw [List.mem_cons, not_or]
    refine ⟨fun same => ?_, fresh later (List.mem_cons_of_mem action member)⟩
    exact notLater (List.mem_map.mpr ⟨later, member, same⟩)

/-! ### Resetting by a token -/

/-- A token that is kept with a login is the one of the request that happened last. -/
theorem Recorded.stored_iff (recorded : access.Recorded drawn) (owner : UserType × Uuid)
    (token : List Char) :
    access.passwordResetToken owner = some token ↔
      ∃ now publicId, access.lastEvent owner = some (.requested owner now publicId) ∧
        token = generateVerificationToken now publicId := by
  rw [recorded.column, Option.bind_eq_some_iff]
  constructor
  · rintro ⟨event, last, own⟩
    have owned : event.owner = owner := by simpa using List.find?_some last
    cases event with
    | requested other now publicId =>
      cases owned
      exact ⟨now, publicId, last, (Option.some.inj own).symm⟩
    | settled other used => cases own
  · rintro ⟨now, publicId, last, rfl⟩
    exact ⟨_, last, rfl⟩

theorem resetPasswordByToken_iff (recorded : access.Recorded drawn) (now : Instant)
    (token : List Char) (password : String) (userLogin : UserLogin) :
    (AuthService.resetPasswordByToken settings access now (some token) password).1 =
        .ok (some userLogin) ↔
      access.findLogin userLogin.owner = some userLogin ∧
        access.passwordResetToken userLogin.owner = some token ∧
        verifyVerificationToken settings.verificationTokenDuration now token = true := by
  simp only [AuthService.resetPasswordByToken]
  constructor
  · intro accepted
    split at accepted
    · cases accepted
    rename_i found query
    split at accepted
    · cases accepted
      obtain ⟨active, held⟩ := findOne_spec query
      exact ⟨active, of_decide_eq_true held, ‹_›⟩
    · cases accepted
  · rintro ⟨active, held, verified⟩
    have any : (access.findOne settings fun other =>
        access.passwordResetToken other.owner = some token).isSome = true :=
      findOne_isSome active (decide_eq_true held)
    obtain ⟨found, query⟩ := Option.isSome_iff_exists.mp any
    obtain ⟨alsoActive, alsoHeld⟩ := findOne_spec query
    have same := recorded.apart found.owner userLogin.owner token (of_decide_eq_true alsoHeld) held
    rw [same, active] at alsoActive
    cases alsoActive
    simp only [query, verified, if_true]

end Access

/-- In any run in which no identifier is drawn twice, a token resets the password of a login exactly
if it is the one that was requested for the login last, the password has not been reset since, the
login is there, and the token is young enough. No token does so twice, and an administrator is sent
none but those that were requested for its own login. -/
theorem reset_iff_requested_last (settings : AccessSettings) (accounts : Store)
    (adminUsers : Table Uuid AdminUser AdminUser.id) (generalStatus : Uuid → UserStatus)
    (actions : List AccessAction) (distinct : (actions.map (·.publicId)).Nodup) :
    (∀ now token password userLogin,
      (AuthService.resetPasswordByToken settings
          (run (Access.step settings) (Access.start accounts adminUsers generalStatus) actions) now
          (some token) password).1 = .ok (some userLogin) ↔
        ∃ requestedAt publicId,
          (run (Access.step settings) (Access.start accounts adminUsers generalStatus)
              actions).lastEvent userLogin.owner =
            some (.requested userLogin.owner requestedAt publicId) ∧
          token = generateVerificationToken requestedAt publicId ∧
          (run (Access.step settings) (Access.start accounts adminUsers generalStatus)
              actions).findLogin userLogin.owner = some userLogin ∧
          now.milliseconds - requestedAt.milliseconds < settings.verificationTokenDuration) ∧
      (run (Access.step settings) (Access.start accounts adminUsers generalStatus)
        actions).usedTokens.Nodup ∧
      ∀ sent ∈ (run (Access.step settings) (Access.start accounts adminUsers generalStatus)
          actions).published,
        ∃ event ∈ (run (Access.step settings) (Access.start accounts adminUsers generalStatus)
            actions).history, sent.IsFor event := by
  obtain ⟨drawn, recorded⟩ := Access.recorded_run settings actions
    (Access.recorded_start accounts adminUsers generalStatus) distinct fun _ _ => List.not_mem_nil
  refine ⟨fun now token password userLogin => ?_, recorded.used, recorded.sent⟩
  rw [Access.resetPasswordByToken_iff recorded, recorded.stored_iff]
  constructor
  · rintro ⟨active, ⟨requestedAt, publicId, last, rfl⟩, verified⟩
    rw [verify_generate] at verified
    exact ⟨requestedAt, publicId, last, rfl, active, of_decide_eq_true verified⟩
  · rintro ⟨requestedAt, publicId, last, rfl, active, young⟩
    refine ⟨active, ⟨requestedAt, publicId, last, rfl⟩, ?_⟩
    rw [verify_generate]
    exact decide_eq_true young

/-- An administrator is created, and asks for a reset. -/
def exampleResetActions : List AccessAction :=
  [⟨.createAdminUser ⟨"6d01", by decide⟩ ⟨none, "admin@example.com", some "first"⟩ 2,
      exampleInstant, ['1']⟩,
    ⟨.forgetPassword .admin "admin@example.com", exampleInstant, ['2']⟩]

/-- A token resets the password until seven days have passed. -/
theorem reset_iff_requested_last_within_days :
    (AuthService.resetPasswordByToken exampleAccessSettings
      (run (Access.step exampleAccessSettings) (Access.start .empty .empty fun _ => .active)
        exampleResetActions) ⟨1600604799999, by decide⟩
      (some (generateVerificationToken exampleInstant ['2'])) "second").1 =
        .ok (some ⟨.admin, ⟨"6d01", by decide⟩, "admin@example.com", none, "hash of first", [],
          none⟩) :=
  ((reset_iff_requested_last exampleAccessSettings .empty .empty (fun _ => .active)
    exampleResetActions (by decide)).1 _ _ _ _).mpr
      ⟨exampleInstant, ['2'], by decide +kernel, rfl, by decide +kernel, by decide⟩

end FieldService.Accounts
