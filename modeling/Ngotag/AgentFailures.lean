import Ngotag.CredentialPayloads
import Ngotag.PrimaryLedger

/-!
What is thrown when a call of an agent fails. The class of the error is looked for in its text, and most
classes read the response, which need not be there: a failure is reported faithfully where there is a
response with a body, or a refused connection is told by the message.
-/
namespace Ngotag.AgentFailures
open CredentialPayloads (Value)
open PrimaryLedger (includes)

def RESP_ERR_HTTP_INVALID_HEADER_VALUE : String := "ERR_HTTP_INVALID_HEADER_VALUE"
def RESP_ERR_HTTP_ECONNREFUSED : String := "ECONNREFUSED"
def RESP_ERR_NOT_FOUND : Nat := 404
def RESP_BAD_REQUEST : Nat := 400
def RESP_ERR_UNPROCESSABLE_ENTITY : Nat := 422
def UNAUTH_MSG : String := "UNAUTHORISED ACCESS"
inductive Method where
  | POST
  | GET
  | PATCH
  | DELETE
  | PUT
  deriving DecidableEq

/-- A response that is an error, with a status of three digits. -/
structure Response where
  status : Nat
  data : Value
  failed : 400 ≤ status ∧ status < 1000
/-- What `httpService` rejects with. Without a response it is any error, of which the code tells the kind. -/
inductive Failure where
  | answered (response : Response)
  | unanswered (message text : String) (code : Option String)
def Failure.response : Failure → Option Response
  | .answered response => some response
  | .unanswered _ _ _ => none
/-- The texts that axios gives an error with a response, as it documents them. -/
structure Axios where
  message : Response → String
  toString : Response → String
  names_status : ∀ response, message response = "Request failed with status code " ++ ToString.toString response.status
  names_class : ∀ response, toString response = "AxiosError: " ++ message response
/-- An exception with its status and the fields of its response, or that of reading a field of `undefined`. -/
inductive Thrown where
  | HttpException (statusCode : Nat) (message : Option String) (error : Value)
  | TypeError

section
variable (axios : Axios)

/-- `error.message` -/
def Failure.message : Failure → String
  | .answered response => axios.message response
  | .unanswered message _ _ => message
/-- `error.toString()` -/
def Failure.toString : Failure → String
  | .answered response => axios.toString response
  | .unanswered _ text _ => text

/-- With `error.response.data ? error.response.data : error.message`. -/
def withData (error : Failure) (statusCode : Response → Nat) (message : Option String) : Thrown :=
  match error.response with
  | none => .TypeError
  | some response =>
    .HttpException (statusCode response) message
      (if response.data.truthy then response.data else .text (error.message axios))
def handleCommonErrors (error : Failure) : Thrown :=
  if includes RESP_ERR_HTTP_ECONNREFUSED (error.message axios) then
    .HttpException 404 none (.text (error.message axios))
  else if includes RESP_ERR_HTTP_ECONNREFUSED (error.message axios) then
    .HttpException 404 none (.text (error.message axios))
  else if includes RESP_ERR_HTTP_INVALID_HEADER_VALUE (error.toString axios) then .HttpException 401 none
      (.text UNAUTH_MSG)
  else if includes (toString RESP_ERR_NOT_FOUND) (error.toString axios) then
    withData axios error (fun _ => 404) none
  else if includes (toString RESP_BAD_REQUEST) (error.toString axios) then
    withData axios error (fun _ => 400) (some (error.message axios))
  else if includes (toString RESP_ERR_UNPROCESSABLE_ENTITY) (error.toString axios) then
    withData axios error (fun _ => 422) none
  else withData axios error Response.status (some (error.message axios))

/-- Without a response its fields are read all the same. -/
def sendError (error : Failure) : Thrown :=
  match error.response with
  | some _ => withData axios error Response.status none
  | none => withData axios error (fun _ => 500) none
/-- What a helper throws. That for DELETE writes `error.response.data` to the log first. -/
def thrown : Method → Failure → Thrown
  | .DELETE,error => if error.response.isNone then .TypeError else handleCommonErrors axios error
  | .PUT,error => sendError axios error
  | _,error => handleCommonErrors axios error

end

def isTenantNotFoundOnAgent : Thrown → Bool
  | .HttpException statusCode _ error =>
    statusCode = 404 && match error.own "reason" with
      | some (.text _) => true
      | _ => false
  | .TypeError => false
def Failure.refused : Failure → Prop
  | .answered _ => False
  | .unanswered _ _ code => code = some "ECONNREFUSED"
/-- An `HttpException` that tells the response, or 404 of a refused connection and else 5xx; a tenant is
    taken as missing only if the agent says so. -/
def Faithful (failure : Failure) (raised : Thrown) : Prop :=
  (∃ statusCode message error, raised = .HttpException statusCode message error ∧
    (∀ response, failure.response = some response → statusCode = response.status ∧ error = response.data) ∧
    (failure.response = none → (failure.refused → statusCode = 404) ∧
      (¬failure.refused → 500 ≤ statusCode ∧ statusCode < 600))) ∧
  (isTenantNotFoundOnAgent raised = true → ∃ response, failure.response = some response ∧ response.status = 404)
/-- There is a response with a body, or a refused connection that the message tells of and the helper
    looks for. -/
def Reported (method : Method) : Failure → Prop
  | .answered response => response.data.truthy = true
  | .unanswered message text code => method ≠ .DELETE ∧ method ≠ .PUT ∧ (Failure.unanswered message text code).refused ∧
      includes RESP_ERR_HTTP_ECONNREFUSED message = true

section
variable {axios : Axios} {response : Response}

theorem digits_iff {n : Nat} (small : n < 1000) :
    (∀ code ∈ [404,400,422], (toString code).toList <:+: (toString n).toList ↔ n = code) ∧
    'N' ∉ (toString n).toList := by
  have all : ∀ n < 1000, (∀ code ∈ [404,400,422], Nat.toDigits 10 code <:+: Nat.toDigits 10 n ↔ n = code) ∧
      'N' ∉ Nat.toDigits 10 n := by decide +kernel
  simpa using all n small
theorem infix_append_iff {c : Char} {word start rest : List Char} (plain : c ∉ start) :
    c :: word <:+: start ++ rest ↔ c :: word <:+: rest := by
  induction start with
  | nil => rfl
  | cons first start ih =>
    rw [List.cons_append,List.infix_cons_iff,ih fun later => plain (List.mem_cons_of_mem _ later)]
    refine ⟨fun either => either.resolve_left fun begins => plain ?_,.inr⟩
    exact (List.cons_prefix_cons.mp begins).1 ▸ List.mem_cons_self
theorem toList_toString : (axios.toString response).toList =
    "AxiosError: ".toList ++ (axios.message response).toList :=
  (congrArg String.toList (axios.names_class response)).trans String.toList_append
theorem toList_message : (axios.message response).toList =
    "Request failed with status code ".toList ++ (toString response.status).toList :=
  (congrArg String.toList (axios.names_status response)).trans String.toList_append

theorem code_mentioned {code : Nat} (named : code ∈ [404,400,422]) :
    includes (toString code) (axios.toString response) = true ↔ response.status = code := by
  obtain ⟨word,begins⟩ : ∃ word, (toString code).toList = '4' :: word := by
    simp only [Nat.toString_eq_repr,Nat.toList_repr]
    rcases List.mem_cons.mp named with rfl | later
    · exact ⟨['0','4'],by decide⟩
    · rcases List.mem_pair.mp later with rfl | rfl
      · exact ⟨['0','0'],by decide⟩
      · exact ⟨['2','2'],by decide⟩
  rw [includes,decide_eq_true_eq,toList_toString,toList_message,begins,infix_append_iff (by decide),
    infix_append_iff (by decide),← begins]
  exact (digits_iff response.failed.2).1 code named

theorem not_mentioned {word : String} (letter : 'N' ∈ word.toList) :
    includes word (axios.message response) = false ∧ includes word (axios.toString response) = false := by
  have message : 'N' ∉ (axios.message response).toList := by
    rw [toList_message]
    exact List.not_mem_append (by decide) (digits_iff response.failed.2).2
  have text : 'N' ∉ (axios.toString response).toList := by
    rw [toList_toString]
    exact List.not_mem_append (by decide) message
  exact ⟨decide_eq_false fun inside => message (inside.subset letter),decide_eq_false fun inside =>
      text (inside.subset letter)⟩

theorem handleCommonErrors_answered : ∃ message, handleCommonErrors axios (.answered response) =
    withData axios (.answered response) Response.status message := by
  have refused : includes RESP_ERR_HTTP_ECONNREFUSED (Failure.message axios (.answered response)) = false :=
    (not_mentioned (by decide)).1
  have header : includes RESP_ERR_HTTP_INVALID_HEADER_VALUE (Failure.toString axios (.answered response)) = false :=
    (not_mentioned (by decide)).2
  have known {code : Nat} (named : code ∈ [404,400,422])
      (told : includes (toString code) (axios.toString response) = true) (message : Option String) :
      withData axios (.answered response) (fun _ => code) message =
        withData axios (.answered response) Response.status message := by
    rw [← (code_mentioned named).mp told]
    rfl
  unfold handleCommonErrors
  rw [refused,header,if_neg Bool.false_ne_true,if_neg Bool.false_ne_true,if_neg Bool.false_ne_true]
  split_ifs with missing bad unprocessable
  · exact ⟨_,known (by decide) missing _⟩
  · exact ⟨_,known (by decide) bad _⟩
  · exact ⟨_,known (by decide) unprocessable _⟩
  · exact ⟨_,rfl⟩

theorem thrown_answered (method : Method) : ∃ message,
    thrown axios method (.answered response) = withData axios (.answered response) Response.status message := by
  cases method with
  | PUT => exact ⟨none,rfl⟩
  | DELETE =>
    have answered : ¬(Failure.answered response).response.isNone = true := Bool.false_ne_true
    rw [thrown,if_neg answered]
    exact handleCommonErrors_answered
  | POST | GET | PATCH =>
    simp only [thrown]
    exact handleCommonErrors_answered
theorem message_ne : axios.message response ≠ "" := by
  intro same
  have letters := toList_message.symm.trans (congrArg String.toList same)
  exact absurd (List.append_eq_nil_iff.mp letters).1 (by decide)

theorem faithful_answered {message : Option String} :
    Faithful (.answered response) (withData axios (.answered response) Response.status message) ↔
      response.data.truthy = true := by
  constructor
  · rintro ⟨⟨statusCode,told,error,raised,same,-⟩,-⟩
    have is_error := (same response rfl).2
    simp only [withData,Failure.response,Thrown.HttpException.injEq] at raised
    by_contra empty
    rw [if_neg empty,is_error] at raised
    rw [← raised.2.2] at empty
    exact empty (decide_eq_true (@message_ne axios response))
  · intro full
    refine ⟨⟨response.status,message,response.data,by simp [withData,Failure.response,full],?_,by rintro ⟨⟩⟩,?_⟩
    · rintro _ ⟨⟩
      exact ⟨rfl,rfl⟩
    · intro taken
      simp only [withData,Failure.response,isTenantNotFoundOnAgent,Bool.and_eq_true,decide_eq_true_eq] at taken
      exact ⟨response,rfl,taken.1⟩

theorem handleCommonErrors_unanswered {message text : String} {code : Option String} :
    handleCommonErrors axios (.unanswered message text code) =
      if includes RESP_ERR_HTTP_ECONNREFUSED message then .HttpException 404 none (.text message)
      else if includes RESP_ERR_HTTP_INVALID_HEADER_VALUE text then .HttpException 401 none (.text UNAUTH_MSG)
      else .TypeError := by
  have unread (statusCode : Response → Nat) (told : Option String) :
      withData axios (.unanswered message text code) statusCode told = .TypeError := rfl
  rw [handleCommonErrors,unread,unread,unread,unread,ite_self,ite_self,ite_self]
  by_cases refused : includes RESP_ERR_HTTP_ECONNREFUSED message = true
  · exact (if_pos refused).trans (if_pos refused).symm
  · exact (if_neg refused).trans ((if_neg refused).trans (if_neg refused).symm)

theorem not_faithful {failure : Failure} : ¬Faithful failure .TypeError := by
  rintro ⟨⟨_,_,_,⟨⟩,-⟩,-⟩
end

/-- Whatever the body has, an answered failure keeps its status, and only a 404 is taken as a missing tenant: no digits
    in the message mislead a helper. -/
theorem status_reported (axios : Axios) (method : Method) (response : Response) :
    (∃ message error, thrown axios method (.answered response) = .HttpException response.status message error) ∧
      (isTenantNotFoundOnAgent (thrown axios method (.answered response)) = true → response.status = 404) := by
  obtain ⟨message,same⟩ := @thrown_answered axios response method
  refine ⟨⟨message,_,same⟩,fun missing => ?_⟩
  simp only [same,withData,Failure.response,isTenantNotFoundOnAgent,Bool.and_eq_true,decide_eq_true_eq] at missing
  exact missing.1

/-- A failure is reported faithfully exactly where there is a response with a body, or the message tells
    of a refused connection. -/
theorem failures_faithful_iff (axios : Axios) (method : Method) (failure : Failure) :
    Faithful failure (thrown axios method failure) ↔ Reported method failure := by
  cases failure with
  | answered response =>
    obtain ⟨message,same⟩ := @thrown_answered axios response method
    rw [same]
    exact faithful_answered
  | unanswered message text code =>
    have common : Faithful (.unanswered message text code) (handleCommonErrors axios (.unanswered message text code)) ↔
        (Failure.unanswered message text code).refused ∧ includes RESP_ERR_HTTP_ECONNREFUSED message = true := by
      rw [handleCommonErrors_unanswered]
      split_ifs with told header
      · have told_ : Failure.response (.unanswered message text code) = none := rfl
        constructor
        · rintro ⟨⟨_,_,_,⟨⟩,-,without⟩,-⟩
          by_contra other
          exact absurd ((without told_).2 fun refused => other ⟨refused,told⟩).1 (by decide)
        · rintro ⟨refused,-⟩
          refine ⟨⟨404,none,_,rfl,by rintro _ ⟨⟩,fun _ => ⟨fun _ => rfl,fun other => absurd refused other⟩⟩,?_⟩
          rintro ⟨⟩
      · refine iff_of_false ?_ fun both => told both.2
        rintro ⟨⟨_,_,_,⟨⟩,-,without⟩,-⟩
        have refused : (Failure.unanswered message text code).refused := by
          by_contra other
          exact absurd ((without rfl).2 other).1 (by decide)
        exact absurd ((without rfl).1 refused) (by decide)
      · exact iff_of_false not_faithful fun both => told both.2
    cases method with
    | DELETE => exact iff_of_false not_faithful fun reported => reported.1 rfl
    | PUT => exact iff_of_false not_faithful fun reported => reported.2.1 rfl
    | POST | GET | PATCH => exact common.trans ⟨fun both => ⟨by decide,by decide,both⟩,fun reported => reported.2.2⟩

def documented : Axios where
  message response := "Request failed with status code " ++ toString response.status
  toString response := "AxiosError: " ++ ("Request failed with status code " ++ toString response.status)
  names_status _ := rfl
  names_class _ := rfl
/-- `timeout of 5000ms exceeded` -/
def timeout : Failure :=
  .unanswered "timeout of 5000ms exceeded" "AxiosError: timeout of 5000ms exceeded" (some "ECONNABORTED")
/-- After a time-out the missing response is read. -/
theorem timeout_unreported :
    ¬∀ (method : Method) (failure : Failure), Faithful failure (thrown documented method failure) := by
  intro faithful
  have raised : thrown documented .GET timeout = .TypeError :=
    handleCommonErrors_unanswered.trans ((if_neg (by decide)).trans (if_neg (by decide)))
  exact not_faithful (raised ▸ faithful .GET timeout)

end Ngotag.AgentFailures
