/-
This file settles when one-time tokens bind to the phone numbers they are sent to.

The guard takes a token whoever it has been sent to: it never looks at the phone number of the
request. So a run has every creation pass with a token of its own customer exactly if no creation
brings a token that only others hold, or that has just run out, and none the fixed one of the
development mode, which is never sent to anybody.
-/

import FieldService.Auth.PhoneVerification

namespace FieldService.Auth

open Execution Interleaving Latest

/-! ### What a call can do -/

namespace OtpTokenGuard

variable {settings : OtpSettings} {circumstance : Circumstance} {otpToken : Option String}
  {verifications : List PhoneVerification} {progress : Progress}

/-- The guard looks a token up, passes, or fails. -/
theorem proceed_cases (settings : OtpSettings) (circumstance : Circumstance)
    (otpToken : Option String) (verifications : List PhoneVerification) (progress : Progress) :
    proceed settings circumstance otpToken verifications progress = progress ∨
    (∃ error, proceed settings circumstance otpToken verifications progress = .failed error) ∨
    (progress = .waiting ∧ ∃ text token, otpToken = some text ∧
      settings.integerInput.reads text = some token ∧
      proceed settings circumstance otpToken verifications progress =
        .found (PhoneVerificationRepository.getByOtpToken verifications circumstance.databaseNow
          token)) ∨
    (proceed settings circumstance otpToken verifications progress = .passed circumstance.now ∧
      ((progress = .waiting ∧ settings.isDevMode = true ∧ otpToken = some "999999") ∨
        ∃ verification, progress = .found (some verification) ∧
          verification.isBeforeExpiry circumstance.now = true)) := by
  cases progress with
  | waiting =>
    simp only [proceed]
    split
    · rename_i fixed
      rw [Bool.and_eq_true, decide_eq_true_iff] at fixed
      exact Or.inr (Or.inr (Or.inr ⟨rfl, Or.inl ⟨trivial, fixed⟩⟩))
    · split
      · exact Or.inr (Or.inl ⟨_, rfl⟩)
      · rename_i text brought
        split
        · split
          · exact Or.inr (Or.inl ⟨_, rfl⟩)
          · rename_i token read
            split
            · exact Or.inr (Or.inr (Or.inl ⟨trivial, text, token,
                (Option.filter_eq_some_iff.mp brought).1, read, rfl⟩))
            · exact Or.inr (Or.inl ⟨_, rfl⟩)
        · exact Or.inr (Or.inl ⟨_, rfl⟩)
  | found extantOtpToken =>
    simp only [proceed]
    split
    · rename_i valid
      obtain ⟨verification, rfl, before⟩ := (Option.any_eq_true ..).mp valid
      exact Or.inr (Or.inr (Or.inr ⟨rfl, Or.inr ⟨verification, rfl, before⟩⟩))
    · exact Or.inr (Or.inl ⟨_, rfl⟩)
  | issued token response => exact Or.inl rfl
  | ignored => exact Or.inl rfl
  | passed now => exact Or.inl rfl
  | failed error => exact Or.inl rfl

theorem proceed_fixed (isDevMode : settings.isDevMode = true)
    (fixed : otpToken = some "999999") :
    proceed settings circumstance otpToken verifications .waiting = .passed circumstance.now := by
  rw [proceed, if_pos (by simp [isDevMode, fixed])]

theorem proceed_found {verification : PhoneVerification}
    (before : verification.isBeforeExpiry circumstance.now = true) :
    proceed settings circumstance otpToken verifications (.found (some verification)) =
      .passed circumstance.now := by
  rw [proceed, if_pos (by simpa using before)]

end OtpTokenGuard

/-- A call leaves the table alone and issues no token, or it is a request for one and issues it. -/
theorem Call.proceed_cases (call : Call) (settings : OtpSettings) (circumstance : Circumstance)
    (verifications : List PhoneVerification) (progress : Progress) :
    ((call.proceed settings circumstance verifications progress).1 = verifications ∧
      ∀ token response,
        (call.proceed settings circumstance verifications progress).2 = .issued token response →
          progress = .issued token response) ∨
    ∃ token response, call.proceed settings circumstance verifications progress =
      (verifications ++ [token.verification], .issued token response) ∧
        ∃ extantOtpToken, progress = .found extantOtpToken := by
  cases call with
  | requestOtpToken input =>
    refine ((AuthController.requestOtpToken input).proceed_cases settings circumstance
      verifications progress).imp_right ?_
    rintro ⟨found, issues⟩
    exact ⟨_, _, issues, found⟩
  | providerRequestOtpToken input =>
    refine ((AuthController.providerRequestOtpToken input).proceed_cases settings circumstance
      verifications progress).imp_right ?_
    rintro ⟨found, issues⟩
    exact ⟨_, _, issues, found⟩
  | createServiceRequest request =>
    refine Or.inl ⟨rfl, fun token response issued => ?_⟩
    obtain same | ⟨error, fails⟩ | ⟨-, text, otpToken, -, -, looked⟩ | ⟨passes, -⟩ :=
      OtpTokenGuard.proceed_cases settings circumstance request.otpToken verifications progress
    · exact same.symm.trans issued
    · cases fails.symm.trans issued
    · cases looked.symm.trans issued
    · cases passes.symm.trans issued

theorem Call.proceed_issued (call : Call) (settings : OtpSettings) (circumstance : Circumstance)
    (verifications : List PhoneVerification) (token : IssuedOtpToken) (response : OtpTokenDto) :
    call.proceed settings circumstance verifications (.issued token response) =
      (verifications, .issued token response) := by
  cases call <;> rfl

theorem PhoneVerificationRepository.otpToken_of_getByOtpToken
    {verifications : List PhoneVerification} {databaseNow : Time} {otpToken : Int}
    {verification : PhoneVerification}
    (found : getByOtpToken verifications databaseNow otpToken = some verification) :
    verification.otpToken = otpToken := by
  have member := latest_mem _ _ _ found
  rw [List.mem_filter, decide_eq_true_iff] at member
  exact member.2.1

/-- The query of the guard, asked of the tokens of one phone number alone, finds one. -/
def PhoneVerificationRepository.findsFor (verifications : List PhoneVerification)
    (phoneNumber : String) (now : Time) (otpToken : Int) : Bool :=
  (getByOtpToken (verifications.filter (·.phoneNumber = phoneNumber)) now otpToken).isSome

theorem PhoneVerificationRepository.findsFor_iff {verifications : List PhoneVerification}
    {phoneNumber : String} {now : Time} {otpToken : Int} :
    findsFor verifications phoneNumber now otpToken = true ↔ ∃ own ∈ verifications,
      own.phoneNumber = phoneNumber ∧ own.otpToken = otpToken ∧ now < own.expiredAt := by
  rw [findsFor, Option.isSome_iff_ne_none, getByOtpToken, Ne, latest_eq_none_iff,
    List.eq_nil_iff_forall_not_mem]
  simp only [List.mem_filter, decide_eq_true_iff, not_forall, not_not, and_assoc]

/-! ### The property and its condition -/

namespace OtpCalls

variable {Index : Type} [DecidableEq Index] (settings : OtpSettings) (calls : Index → Call)

/-- The token has been sent to the phone number and has not run out. -/
def Holds (state : OtpCalls Index) (phoneNumber : String) (otpToken : Int) (now : Time) : Prop :=
  ∃ index issued response, state.progress index = .issued issued response ∧
    issued.event.phoneNumber = phoneNumber ∧ issued.event.otpToken = otpToken ∧
      now < issued.verification.expiredAt

/-- Whoever has passed the guard has done so with a token that the customer of the request held at
that time. -/
def BindsToPhone (state : OtpCalls Index) : Prop :=
  ∀ index request now, calls index = .createServiceRequest request →
    state.progress index = .passed now →
      ∃ text token, request.otpToken = some text ∧ settings.integerInput.reads text = some token ∧
        state.Holds request.phoneNumber token now

/-- A creation that comes to the guard does not bring the fixed token in development mode, and when
the guard decides about a token that has not run out by a second, its query for the digits of the
header finds one among the tokens of the customer's phone number too. -/
def BringsOwnToken (state : OtpCalls Index) (turn : CallTurn Index) : Prop :=
  ∀ request, calls turn.index = .createServiceRequest request →
    (state.progress turn.index = .waiting →
      ¬(settings.isDevMode = true ∧ request.otpToken = some "999999")) ∧
    ∀ verification, state.progress turn.index = .found (some verification) →
      verification.isBeforeExpiry turn.circumstance.now = true →
        ∀ text ∈ request.otpToken, ∀ token ∈ settings.integerInput.reads text,
          PhoneVerificationRepository.findsFor state.shared request.phoneNumber
            turn.circumstance.now token = true

/-- The table has what has been issued, and what a guard has found has the token it was given. -/
structure Consistent (state : OtpCalls Index) : Prop where
  sent : ∀ verification ∈ state.shared, ∃ index issued response,
    state.progress index = .issued issued response ∧ issued.verification = verification
  stored : ∀ index issued response, state.progress index = .issued issued response →
    issued.verification ∈ state.shared
  given : ∀ index request verification, calls index = .createServiceRequest request →
    state.progress index = .found (some verification) → ∃ text, request.otpToken = some text ∧
      settings.integerInput.reads text = some verification.otpToken

/-! ### Steps -/

variable {settings calls} {state : OtpCalls Index}

/-- The call whose turn it is proceeds. -/
theorem step_progress_self (settings : OtpSettings) (calls : Index → Call)
    (state : OtpCalls Index) (turn : CallTurn Index) :
    (state.step settings calls turn).progress turn.index =
      ((calls turn.index).proceed settings turn.circumstance state.shared
        (state.progress turn.index)).2 :=
  state.turn_progress_self turn.index _

theorem step_progress_other (settings : OtpSettings) (calls : Index → Call)
    (state : OtpCalls Index) (turn : CallTurn Index) {index : Index}
    (different : index ≠ turn.index) :
    (state.step settings calls turn).progress index = state.progress index :=
  state.turn_progress_other _ different

/-- What has been issued stays issued. -/
theorem issued_step {index : Index} {token : IssuedOtpToken} {response : OtpTokenDto}
    (issued : state.progress index = .issued token response) (turn : CallTurn Index) :
    (state.step settings calls turn).progress index = .issued token response := by
  by_cases own : index = turn.index
  · subst own
    rw [step_progress_self, issued, Call.proceed_issued]
  · rw [step_progress_other settings calls state turn own, issued]

theorem Holds.step {phoneNumber : String} {otpToken : Int} {now : Time}
    (holds : state.Holds phoneNumber otpToken now) (turn : CallTurn Index) :
    (state.step settings calls turn).Holds phoneNumber otpToken now := by
  obtain ⟨index, issued, response, progress, facts⟩ := holds
  exact ⟨index, issued, response, issued_step progress turn, facts⟩

omit [DecidableEq Index] in
theorem consistent_opened : (opened : OtpCalls Index).Consistent settings calls where
  sent := by simp [opened]
  stored := by simp [opened]
  given := by simp [opened]

/-- A guard that has found a token has just been given it, or had found it before. -/
theorem found_step {turn : CallTurn Index} {index : Index} {request : CreateServiceRequest}
    {verification : PhoneVerification} (created : calls index = .createServiceRequest request)
    (found : (state.step settings calls turn).progress index = .found (some verification)) :
    state.progress index = .found (some verification) ∨
      ∃ text, request.otpToken = some text ∧
        settings.integerInput.reads text = some verification.otpToken := by
  by_cases own : index = turn.index
  · subst own
    rw [step_progress_self, created] at found
    obtain same | ⟨error, fails⟩ | ⟨-, text, token, brought, read, looked⟩ | ⟨passes, -⟩ :=
      OtpTokenGuard.proceed_cases settings turn.circumstance request.otpToken state.shared
        (state.progress turn.index)
    · exact Or.inl (same.symm.trans found)
    · cases fails.symm.trans found
    · have same := looked.symm.trans found
      injection same with hit
      rw [PhoneVerificationRepository.otpToken_of_getByOtpToken hit]
      exact Or.inr ⟨text, brought, read⟩
    · cases passes.symm.trans found
  · rw [step_progress_other settings calls state turn own] at found
    exact Or.inl found

theorem Consistent.step (consistent : state.Consistent settings calls) (turn : CallTurn Index) :
    (state.step settings calls turn).Consistent settings calls := by
  have given : ∀ index request verification, calls index = .createServiceRequest request →
      (state.step settings calls turn).progress index = .found (some verification) →
        ∃ text, request.otpToken = some text ∧
          settings.integerInput.reads text = some verification.otpToken := by
    intro index request verification created found
    obtain before | brought := found_step created found
    · exact consistent.given index request verification created before
    · exact brought
  obtain ⟨table, issuesNone⟩ | ⟨token, response, issues, extantOtpToken, found⟩ :=
    (calls turn.index).proceed_cases settings turn.circumstance state.shared
      (state.progress turn.index)
  · have shared : (state.step settings calls turn).shared = state.shared := table
    refine ⟨fun verification member => ?_, fun index issued response progress => ?_, given⟩
    · rw [shared] at member
      obtain ⟨index, issued, response, progress, same⟩ := consistent.sent verification member
      exact ⟨index, issued, response, issued_step progress turn, same⟩
    · rw [shared]
      refine consistent.stored index issued response ?_
      by_cases own : index = turn.index
      · subst own
        rw [step_progress_self] at progress
        exact issuesNone issued response progress
      · rwa [step_progress_other settings calls state turn own] at progress
  · have shared : (state.step settings calls turn).shared =
        state.shared ++ [token.verification] := congrArg Prod.fst issues
    have progress : (state.step settings calls turn).progress turn.index =
        .issued token response := (step_progress_self ..).trans (congrArg Prod.snd issues)
    refine ⟨fun verification member => ?_, fun index issued response' progress' => ?_, given⟩
    · rw [shared, List.mem_append, List.mem_singleton] at member
      obtain old | rfl := member
      · obtain ⟨index, issued, response, before, same⟩ := consistent.sent verification old
        exact ⟨index, issued, response, issued_step before turn, same⟩
      · exact ⟨turn.index, token, response, progress, rfl⟩
    · rw [shared, List.mem_append, List.mem_singleton]
      by_cases own : index = turn.index
      · subst own
        injection progress.symm.trans progress' with same
        rw [same]
        exact Or.inr rfl
      · rw [step_progress_other settings calls state turn own] at progress'
        exact Or.inl (consistent.stored index issued response' progress')

theorem consistent_run (settings : OtpSettings) (calls : Index → Call)
    (turns : List (CallTurn Index)) :
    (run (OtpCalls.step settings calls) opened turns).Consistent settings calls :=
  preserved_run _ (Consistent settings calls) (fun _ turn consistent => consistent.step turn) _
    turns consistent_opened

omit [DecidableEq Index] in
/-- Who holds a token is who it is stored for. -/
theorem Consistent.holds_iff (consistent : state.Consistent settings calls) (phoneNumber : String)
    (otpToken : Int) (now : Time) :
    state.Holds phoneNumber otpToken now ↔
      PhoneVerificationRepository.findsFor state.shared phoneNumber now otpToken = true := by
  rw [PhoneVerificationRepository.findsFor_iff]
  constructor
  · rintro ⟨index, issued, response, progress, facts⟩
    exact ⟨issued.verification, consistent.stored index issued response progress, facts⟩
  · rintro ⟨own, member, facts⟩
    obtain ⟨index, issued, response, progress, rfl⟩ := consistent.sent own member
    exact ⟨index, issued, response, progress, facts⟩

/-! ### Exactness -/

omit [DecidableEq Index] in
/-- The fixed token has not been sent to anybody. -/
theorem not_holds_fixed {phoneNumber : String} {now : Time} :
    ¬state.Holds phoneNumber 999999 now := by
  rintro ⟨index, issued, response, -, -, fixed, -⟩
  exact absurd fixed (ne_of_lt issued.drawn.2)

/-- A step keeps every pass bound exactly if the creation whose turn it is brings a token of its
own. -/
theorem bindsToPhone_step_iff (consistent : state.Consistent settings calls)
    (binds : state.BindsToPhone settings calls) (turn : CallTurn Index) :
    (state.step settings calls turn).BindsToPhone settings calls ↔
      state.BringsOwnToken settings calls turn := by
  constructor
  · intro bindsNext request created
    have next : (state.step settings calls turn).progress turn.index =
        OtpTokenGuard.proceed settings turn.circumstance request.otpToken state.shared
          (state.progress turn.index) := by
      rw [step_progress_self, created]
      rfl
    have shared : (state.step settings calls turn).shared = state.shared := by
      show ((calls turn.index).proceed settings turn.circumstance state.shared
        (state.progress turn.index)).1 = state.shared
      rw [created]
      rfl
    refine ⟨fun waiting ⟨isDevMode, fixed⟩ => ?_,
      fun verification found before text brought token read => ?_⟩
    · rw [waiting, OtpTokenGuard.proceed_fixed isDevMode fixed] at next
      obtain ⟨text, token, brought, read, holds⟩ := bindsNext _ request _ created next
      have digits : settings.integerInput.reads "999999" = some 999999 :=
        settings.integerInput.reads_repr 999999 (by decide)
      cases fixed.symm.trans brought
      cases digits.symm.trans read
      exact not_holds_fixed holds
    · rw [found, OtpTokenGuard.proceed_found before] at next
      obtain ⟨given, digits, broughtToo, readToo, holds⟩ := bindsNext _ request _ created next
      cases brought.symm.trans broughtToo
      cases read.symm.trans readToo
      rw [(consistent.step turn).holds_iff, shared] at holds
      exact holds
  · intro brings index request now created passed
    by_cases own : index = turn.index
    · subst own
      have before := passed
      rw [step_progress_self, created] at before
      obtain same | ⟨error, fails⟩ | ⟨-, text, token, -, -, looked⟩ | ⟨passes, how⟩ :=
        OtpTokenGuard.proceed_cases settings turn.circumstance request.otpToken state.shared
          (state.progress turn.index)
      · obtain ⟨text, token, brought, read, holds⟩ :=
          binds turn.index request now created (same.symm.trans before)
        exact ⟨text, token, brought, read, holds.step turn⟩
      · cases fails.symm.trans before
      · cases looked.symm.trans before
      · cases passes.symm.trans before
        obtain ⟨waiting, fixed⟩ | ⟨verification, found, unexpired⟩ := how
        · exact absurd fixed ((brings request created).1 waiting)
        · obtain ⟨text, brought, read⟩ :=
            consistent.given turn.index request verification created found
          have holds := (consistent.holds_iff _ _ _).mpr
            ((brings request created).2 verification found unexpired text brought _ read)
          exact ⟨text, verification.otpToken, brought, read, holds.step turn⟩
    · rw [step_progress_other settings calls state turn own] at passed
      obtain ⟨text, token, brought, read, holds⟩ := binds index request now created passed
      exact ⟨text, token, brought, read, holds.step turn⟩

end OtpCalls

/-- In a run of requests for tokens and of creations, whoever passes the guard does so with a token
of the customer exactly if every creation brings a token of its own. -/
theorem bindsToPhone_throughout_iff {Index : Type} [DecidableEq Index] (settings : OtpSettings)
    (calls : Index → Call) (turns : List (CallTurn Index)) :
    Throughout (OtpCalls.step settings calls) (OtpCalls.BindsToPhone settings calls)
        OtpCalls.opened turns ↔
      Along (OtpCalls.step settings calls) (OtpCalls.BringsOwnToken settings calls)
        OtpCalls.opened turns := by
  refine throughout_iff_along _ _ (OtpCalls.Consistent settings calls) _ ?_ ?_ _ turns
    OtpCalls.consistent_opened ?_
  · intro state turn consistent
    exact consistent.step turn
  · intro state turn consistent binds
    exact OtpCalls.bindsToPhone_step_iff consistent binds turn
  · intro index request now created passed
    cases passed

/-- A call for a token for one phone number, and a creation for another with that token. -/
def exampleOtpCalls : Bool → Call
  | false => .requestOtpToken ⟨"60123456789", none⟩
  | true => .createServiceRequest
      ⟨some "123456", ⟨"customer@example.com", "Jane Tan", "60198765432", none⟩⟩

def exampleOtpSettings : OtpSettings where
  isDevMode := false
  otpExpiryTimeWindowInSeconds := 300
  otpRequestTimeWindowInSeconds := 60
  integerInput := .plain

/-- The token is requested, and the creation comes with it a minute later. -/
def exampleCallTurns : List (CallTurn Bool) :=
  let turn (index : Bool) (now : Time) : CallTurn Bool :=
    ⟨index, ⟨now, now, true, true, ⟨23456, by decide⟩⟩⟩
  [turn false 0, turn false 10, turn true 60000, turn true 60010]

/-- The creation passes, and its customer has no token. -/
theorem not_bindsToPhone_throughout_stranger :
    ¬Throughout (OtpCalls.step exampleOtpSettings exampleOtpCalls)
      (OtpCalls.BindsToPhone exampleOtpSettings exampleOtpCalls) OtpCalls.opened
      exampleCallTurns := by
  intro throughout
  have binds := throughout exampleCallTurns ⟨[], rfl⟩
  have passed : (run (OtpCalls.step exampleOtpSettings exampleOtpCalls) OtpCalls.opened
      exampleCallTurns).progress true = .passed 60010 := by
    decide +kernel
  have nobody : ∀ own ∈ (run (OtpCalls.step exampleOtpSettings exampleOtpCalls) OtpCalls.opened
      exampleCallTurns).shared, own.phoneNumber ≠ CreateServiceRequest.phoneNumber
        ⟨some "123456", ⟨"customer@example.com", "Jane Tan", "60198765432", none⟩⟩ := by
    decide +kernel
  have consistent := OtpCalls.consistent_run exampleOtpSettings exampleOtpCalls exampleCallTurns
  obtain ⟨text, token, -, -, holds⟩ := binds true _ 60010 rfl passed
  obtain ⟨own, member, phone, -⟩ :=
    PhoneVerificationRepository.findsFor_iff.mp ((consistent.holds_iff _ _ _).mp holds)
  exact nobody own member phone

end FieldService.Auth
