/-
This file models one-time tokens: how they are sent to phone numbers, and how the guard of the
endpoint that creates service requests takes them.

All tokens are in one table. A request for a token looks up the latest one of its phone number that
has not run out, and adds a new one if the last is old enough. The guard looks up the latest one
with the token of the header. Requests and guards are calls that wait for the database in between,
so any number of them run at once, each at its own pace.
-/

import FieldService.Auth.Texts
import FieldService.Library.Interleaving
import FieldService.Library.Latest
import FieldService.Orders.Placing

namespace FieldService.Auth

open Interleaving Latest

/-! ### Tokens -/

inductive OtpType where
  | customer
  | sp
  deriving DecidableEq, Repr

/-- A row of `phone_verifications`. -/
structure PhoneVerification where
  otpToken : Int
  expiredAt : Time
  nextRequestAt : Time
  phoneNumber : String
  createdAt : Time
  deriving DecidableEq, Repr

/-- `moment.diff` in seconds: whole seconds, truncated towards zero. -/
def diffSeconds (later earlier : Time) : Int :=
  (later - earlier).tdiv 1000

def addSeconds (instant : Time) (seconds : Int) : Time :=
  instant + seconds * 1000

namespace PhoneVerification

variable (verification : PhoneVerification)

def numberOfSecondsBeforeNextRequest (now : Time) : Int :=
  diffSeconds verification.nextRequestAt now

def numberOfSecondsBeforeExpiry (now : Time) : Int :=
  diffSeconds verification.expiredAt now

def isBeforeExpiry (now : Time) : Bool :=
  0 ≤ verification.numberOfSecondsBeforeExpiry now

def isWithinRateLimit (now : Time) : Bool :=
  verification.numberOfSecondsBeforeNextRequest now ≤ 0

end PhoneVerification

namespace PhoneVerificationRepository

def getValidOtpToken (verifications : List PhoneVerification) (databaseNow : Time)
    (phoneNumber : String) : Option PhoneVerification :=
  latest (·.createdAt) (verifications.filter fun verification =>
    verification.phoneNumber = phoneNumber ∧ databaseNow < verification.expiredAt)

def getByOtpToken (verifications : List PhoneVerification) (databaseNow : Time)
    (otpToken : Int) : Option PhoneVerification :=
  latest (·.createdAt) (verifications.filter fun verification =>
    verification.otpToken = otpToken ∧ databaseNow < verification.expiredAt)

end PhoneVerificationRepository

/-! ### Calls -/

structure RequestOtpTokenInput where
  phoneNumber : String
  requestCategory : Option String
  deriving DecidableEq, Repr

structure RequestOtpTokenCommand where
  type : OtpType
  phoneNumber : String
  checkUserExists : Bool
  requestCategory : Option String
  deriving DecidableEq, Repr

namespace AuthController

def requestOtpToken (input : RequestOtpTokenInput) : RequestOtpTokenCommand :=
  ⟨.customer, stripPhoneNumber input.phoneNumber, false, input.requestCategory⟩

def providerRequestOtpToken (input : RequestOtpTokenInput) : RequestOtpTokenCommand :=
  ⟨.sp, stripPhoneNumber input.phoneNumber, true, input.requestCategory⟩

end AuthController

/-- A request to create a service request, with the `x-otp-token` header. -/
structure CreateServiceRequest where
  otpToken : Option String
  customerContact : Orders.CustomerContactInput
  deriving DecidableEq, Repr

/-- The phone number of the customer as the endpoint takes it. -/
def CreateServiceRequest.phoneNumber (request : CreateServiceRequest) : String :=
  stripPhoneNumber request.customerContact.phone

inductive Call where
  | requestOtpToken (input : RequestOtpTokenInput)
  | providerRequestOtpToken (input : RequestOtpTokenInput)
  | createServiceRequest (request : CreateServiceRequest)

structure OtpTokenRequestedEvent where
  type : OtpType
  phoneNumber : String
  otpToken : Int
  requestCategory : Option String
  deriving DecidableEq, Repr

structure OtpTokenDto where
  success : Bool
  otpToken : Option Int
  deriving DecidableEq, Repr

inductive OtpError where
  | otpTokenExpired
  | otpTokenNotRecognized
  | tooManyOtpTokenRequest (expiresInSeconds : Int)
  | queryFailed
  deriving DecidableEq, Repr

/-- A token that has been stored and whose event is published, which sends it to its phone. -/
structure IssuedOtpToken where
  verification : PhoneVerification
  drawn : 100000 ≤ verification.otpToken ∧ verification.otpToken < 999999
  type : OtpType
  requestCategory : Option String
  deriving DecidableEq, Repr

def IssuedOtpToken.event (issued : IssuedOtpToken) : OtpTokenRequestedEvent :=
  ⟨issued.type, issued.verification.phoneNumber, issued.verification.otpToken,
    issued.requestCategory⟩

/-- How far a call has come. Between its two queries it has the token it has found. -/
inductive Progress where
  | waiting
  | found (extantOtpToken : Option PhoneVerification)
  | issued (token : IssuedOtpToken) (response : OtpTokenDto)
  /-- There is no such user. -/
  | ignored
  | passed (now : Time)
  | failed (error : OtpError)
  deriving DecidableEq, Repr

/-! ### The two handlers -/

structure OtpSettings where
  isDevMode : Bool
  otpExpiryTimeWindowInSeconds : Int
  otpRequestTimeWindowInSeconds : Int
  integerInput : IntegerInput

/-- What a call meets as it goes on: the clocks of the application and of the database, whether the
database answers and knows the user, and what is drawn at random. -/
structure Circumstance where
  now : Time
  databaseNow : Time
  answers : Bool
  userExists : Bool
  draw : Fin 899999

/-- `genOtpToken(100000, 999999)`. -/
def genOtpToken (draw : Fin 899999) : Int := 100000 + draw.val

theorem genOtpToken_bounds (draw : Fin 899999) :
    100000 ≤ genOtpToken draw ∧ genOtpToken draw < 999999 := by
  have bound := draw.isLt
  rw [genOtpToken]
  omega

section Handlers

variable (settings : OtpSettings) (circumstance : Circumstance)

/-- The token a command stores. -/
def RequestOtpTokenCommand.issue (command : RequestOtpTokenCommand) : IssuedOtpToken where
  verification :=
    { otpToken := genOtpToken circumstance.draw
      expiredAt := addSeconds circumstance.now settings.otpExpiryTimeWindowInSeconds
      nextRequestAt := addSeconds circumstance.now settings.otpRequestTimeWindowInSeconds
      phoneNumber := command.phoneNumber
      createdAt := circumstance.databaseNow }
  drawn := genOtpToken_bounds circumstance.draw
  type := command.type
  requestCategory := command.requestCategory

def IssuedOtpToken.response (issued : IssuedOtpToken) : OtpTokenDto :=
  ⟨true, if settings.isDevMode then some issued.verification.otpToken else none⟩

/-- The next step of `RequestOtpTokenHandler.execute`. -/
def RequestOtpTokenCommand.proceed (command : RequestOtpTokenCommand)
    (verifications : List PhoneVerification) : Progress → List PhoneVerification × Progress
  | .waiting =>
    if !circumstance.answers then (verifications, .failed .queryFailed)
    else if command.checkUserExists && !circumstance.userExists then (verifications, .ignored)
    else
      (verifications, .found (PhoneVerificationRepository.getValidOtpToken verifications
        circumstance.databaseNow command.phoneNumber))
  | .found extantOtpToken =>
    match extantOtpToken.filter (!·.isWithinRateLimit circumstance.now) with
    | some recent =>
      (verifications, .failed (.tooManyOtpTokenRequest
        (recent.numberOfSecondsBeforeNextRequest circumstance.now)))
    | none =>
      if !circumstance.answers then (verifications, .failed .queryFailed)
      else
        let issued := command.issue settings circumstance
        (verifications ++ [issued.verification], .issued issued (issued.response settings))
  | progress => (verifications, progress)

/-- The next step of `OtpTokenGuard.canActivate`. -/
def OtpTokenGuard.proceed (otpToken : Option String) (verifications : List PhoneVerification) :
    Progress → Progress
  | .waiting =>
    if settings.isDevMode && otpToken = some "999999" then .passed circumstance.now
    else
      match otpToken.filter (· ≠ "") with
      | none => .failed .otpTokenNotRecognized
      | some text =>
        if isIntegerText text then
          match settings.integerInput.reads text with
          | none => .failed .queryFailed
          | some token =>
            if circumstance.answers then
              .found (PhoneVerificationRepository.getByOtpToken verifications
                circumstance.databaseNow token)
            else .failed .queryFailed
        else .failed .otpTokenNotRecognized
  | .found extantOtpToken =>
    if extantOtpToken.any (·.isBeforeExpiry circumstance.now) then .passed circumstance.now
    else .failed .otpTokenExpired
  | progress => progress

def Call.proceed (verifications : List PhoneVerification) (progress : Progress) :
    Call → List PhoneVerification × Progress
  | .requestOtpToken input =>
    (AuthController.requestOtpToken input).proceed settings circumstance verifications progress
  | .providerRequestOtpToken input =>
    (AuthController.providerRequestOtpToken input).proceed settings circumstance verifications
      progress
  | .createServiceRequest request =>
    (verifications,
      OtpTokenGuard.proceed settings circumstance request.otpToken verifications progress)

end Handlers

/-! ### Any number of calls -/

/-- A call takes its next step. -/
structure CallTurn (Index : Type) where
  index : Index
  circumstance : Circumstance

/-- The table of tokens, and the progress of every call. -/
abbrev OtpCalls (Index : Type) := Crew Index (List PhoneVerification) Progress

namespace OtpCalls

variable {Index : Type} [DecidableEq Index]

/-- No token has been requested. -/
def opened : OtpCalls Index := ⟨[], fun _ => .waiting⟩

def step (settings : OtpSettings) (calls : Index → Call) (state : OtpCalls Index)
    (turn : CallTurn Index) : OtpCalls Index :=
  state.turn turn.index ((calls turn.index).proceed settings turn.circumstance state.shared
    (state.progress turn.index))

end OtpCalls

/-! ### What a step does -/

/-- A command leaves the table alone and issues no token, or it issues one. -/
theorem RequestOtpTokenCommand.proceed_cases (command : RequestOtpTokenCommand)
    (settings : OtpSettings) (circumstance : Circumstance)
    (verifications : List PhoneVerification) (progress : Progress) :
    ((command.proceed settings circumstance verifications progress).1 = verifications ∧
      ∀ token response,
        (command.proceed settings circumstance verifications progress).2 = .issued token response →
          progress = .issued token response) ∨
    ((∃ extantOtpToken, progress = .found extantOtpToken) ∧
      command.proceed settings circumstance verifications progress =
        (verifications ++ [(command.issue settings circumstance).verification],
          .issued (command.issue settings circumstance)
            ((command.issue settings circumstance).response settings))) := by
  cases progress with
  | waiting =>
    left
    simp only [proceed]
    split
    · exact ⟨rfl, fun token response issued => by cases issued⟩
    · split <;> exact ⟨rfl, fun token response issued => by cases issued⟩
  | found extantOtpToken =>
    simp only [proceed]
    split
    · exact Or.inl ⟨rfl, fun token response issued => by cases issued⟩
    · split
      · exact Or.inl ⟨rfl, fun token response issued => by cases issued⟩
      · exact Or.inr ⟨⟨extantOtpToken, rfl⟩, rfl⟩
  | issued token response => exact Or.inl ⟨rfl, fun _ _ same => same⟩
  | ignored => exact Or.inl ⟨rfl, fun _ _ same => same⟩
  | passed now => exact Or.inl ⟨rfl, fun _ _ same => same⟩
  | failed error => exact Or.inl ⟨rfl, fun _ _ same => same⟩

end FieldService.Auth
