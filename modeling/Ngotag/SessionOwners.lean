import Ngotag.Sessions

/-!
Who changes a session. A signout deletes whatever it lists, whoever asks for it; an expired
token is not verified before the session that it names is deleted; and the request of a
service, which is no user, deletes any session by its id. In every other way a session is
changed only for its user, or for who presents its refresh token, signed by Keycloak
(`owned_iff`).
-/
namespace Ngotag.SessionOwners
open Runs Await Sessions

section
variable (svc : Services)

/-- The row was changed for its user, or for who presented its own refresh token. -/
def Owned : Caller × Session → Prop
  | (.token refreshToken,row) =>
    svc.genuine refreshToken = true ∧ ∃ data, svc.decode refreshToken = some data ∧ data.sid = some row.id
  | (.user userId,row) => userId = some row.userId
/-- A signout lists sessions of its user only; a token whose session is deleted as expired
    is genuine; who deletes a session by its id is some user. Where no row is found it does
    not matter. -/
def Rightful (w : World) : Cmd svc → Prop
  | .destroySession user sessions => ∀ row ∈ w.sessions, row.id ∈ sessions → user = some row.userId
  | .deleteSession refreshToken (some id) => (∃ row ∈ w.sessions, row.id = id) → svc.genuine refreshToken = true
  | .deleteSessionBySessionId sessionId none => ∀ row ∈ w.sessions, row.id ≠ sessionId
  | _ => True
/-- What a step carries out is rightful, unless it fails. -/
def Proper (m : Machine (Cmd svc) (Ret svc) Failure Response World) : Action (Choice svc) Input Env → Prop
  | .advance process choice => ∀ command resume, m.thread process = .live (.await command resume) →
      choice.fails = false → Rightful svc m.world command
  | _ => True

/-- The rows that a command finds to change, with the caller. -/
def found (w : World) : Cmd svc → List (Caller × Session)
  | .updateSessionToken refreshToken response _ =>
    match response.val.sessionState.filter (· ≠ "") with
    | none => []
    | some id => (w.sessions.filter fun row => row.id = id).map fun row => (.token refreshToken,row)
  | .deleteSession refreshToken (some id) =>
    (w.sessions.filter fun row => row.id = id).map fun row => (.token refreshToken,row)
  | .destroySession user sessions =>
    (w.sessions.filter fun row => row.id ∈ sessions).map fun row => (.user user,row)
  | .deleteSessionBySessionId sessionId userId =>
    (w.sessions.filter fun row => row.id = sessionId && userId.all (· = row.userId)).map fun row => (.user userId,row)
  | _ => []

/-- A session is deleted by token only under the id that the token names. -/
def Asked : Cmd svc → Prop
  | .deleteSession refreshToken (some id) => ∃ data, svc.decode refreshToken = some data ∧ data.sid = some id
  | _ => True

variable {svc} {process : Nat} {c : Cmd svc} {choice : Choice svc} {w after : World}
theorem deleteFound_changes {caller : Caller} {gone : Session → Bool} {answer : Except Failure Unit}
    (deleted : deleteFound w caller gone = some (after,answer)) :
    after.changes = (w.sessions.filter gone).map (fun row => (caller,row)) ++ w.changes := by
  unfold deleteFound at deleted
  by_cases any : w.sessions.any gone = true
  · rw [if_pos any] at deleted
    cases deleted
    rfl
  · rw [if_neg any] at deleted
    cases deleted
    have none_ : w.sessions.filter gone = [] := by simpa [List.filter_eq_nil_iff] using any
    rw [none_]
    rfl

theorem update_changes {refreshToken : String} {tokens : TokenResponse} {expiresAt : Nat} {answer : Except Failure Unit}
    {id : String} (state : tokens.sessionState.filter (· ≠ "") = some id)
    (updated : update w refreshToken tokens expiresAt = some (after,answer)) :
    after.changes = (w.sessions.filter fun row => row.id = id).map
        (fun row => (.token refreshToken,row)) ++ w.changes := by
  unfold update at updated
  rw [state] at updated
  by_cases any : (w.sessions.any fun row => row.id = id) = true
  · simp only [any,if_true] at updated
    cases updated
    rfl
  · simp only [any] at updated
    cases updated
    have none_ : (w.sessions.filter fun row => row.id = id) = [] := by
      simpa [List.filter_eq_nil_iff] using any
    rw [none_]
    rfl

theorem carry_changes {answer : Except Failure (Ret svc c)}
    (carried : carry svc process c choice w = some (after,answer)) :
    after.changes = found svc w c ++ w.changes := by
  cases c with
  | generateToken name password userData =>
    simp only [carry,generate] at carried
    cases sid : sidOf svc choice.tokens with
    | none => rw [sid] at carried; cases carried; rfl
    | some sid' =>
      rw [sid] at carried
      by_cases taken : sid' ∈ w.stored ∨ sid' ∈ w.drawn.map Prod.snd
      · simp only [taken,if_true] at carried
        cases carried
      · simp only [taken,if_false] at carried
        cases carried
        rfl
  | createSession row =>
    simp only [carry,create] at carried
    by_cases any : (w.sessions.any fun other => other.id = row.id) = true
    · rw [if_pos any] at carried
      cases carried
      rfl
    · rw [if_neg any] at carried
      cases carried
      rfl
  | getAccessToken refreshToken =>
    simp only [carry,Option.bind_eq_some_iff] at carried
    obtain ⟨response,-,same⟩ := carried
    cases same
    rfl
  | getSession sessionId => cases sessionId <;> (cases carried; rfl)
  | updateSessionToken refreshToken response expiresAt =>
    cases state : response.val.sessionState.filter (· ≠ "") with
    | none =>
      simp only [carry,update,state] at carried
      cases carried
      simp only [found,state,List.nil_append]
    | some id =>
      simp only [found,state]
      exact update_changes state carried
  | deleteSession refreshToken sessionId =>
    cases sessionId with
    | none => cases carried; rfl
    | some id => exact deleteFound_changes carried
  | deleteSessionBySessionId sessionId userId => exact deleteFound_changes carried
  | _ => cases carried; rfl

theorem owned_of_rightful (asked : Asked svc c) (rightful : Rightful svc w c) : ∀ e ∈ found svc w c, Owned svc e := by
  intro e there
  cases c with
  | updateSessionToken refreshToken response expiresAt =>
    simp only [found] at there
    cases state : response.val.sessionState.filter (· ≠ "") with
    | none => rw [state] at there; cases there
    | some id =>
      rw [state] at there
      obtain ⟨row,member,rfl⟩ := List.mem_map.mp there
      have same : row.id = id := by simpa using (List.mem_filter.mp member).2
      obtain ⟨state,-⟩ := Option.filter_eq_some_iff.mp state
      refine ⟨svc.refreshes_genuine response.property,?_⟩
      rw [same]
      exact svc.refreshes_session response.property state
  | deleteSession refreshToken sessionId =>
    cases sessionId with
    | none => cases there
    | some id =>
      obtain ⟨row,member,rfl⟩ := List.mem_map.mp there
      obtain ⟨stored,same⟩ := List.mem_filter.mp member
      have same : row.id = id := by simpa using same
      refine ⟨rightful ⟨row,stored,same⟩,?_⟩
      rw [same]
      exact asked
  | destroySession user sessions =>
    obtain ⟨row,member,rfl⟩ := List.mem_map.mp there
    obtain ⟨stored,listed⟩ := List.mem_filter.mp member
    exact rightful row stored (by simpa using listed)
  | deleteSessionBySessionId sessionId userId =>
    obtain ⟨row,member,rfl⟩ := List.mem_map.mp there
    obtain ⟨stored,picked⟩ := List.mem_filter.mp member
    simp only [Bool.and_eq_true,decide_eq_true_eq] at picked
    cases userId with
    | none => exact absurd picked.1 (rightful row stored)
    | some id => exact congrArg some (by simpa using picked.2)
  | _ => cases there

theorem rightful_of_owned (owned : ∀ e ∈ found svc w c, Owned svc e) : Rightful svc w c := by
  cases c with
  | deleteSession refreshToken sessionId =>
    cases sessionId with
    | none => trivial
    | some id =>
      rintro ⟨row,stored,same⟩
      have there : (Caller.token refreshToken,row) ∈ found svc w (.deleteSession refreshToken (some id)) :=
        List.mem_map.mpr ⟨row,List.mem_filter.mpr ⟨stored,by simpa using same⟩,rfl⟩
      exact (owned _ there).1
  | destroySession user sessions =>
    intro row stored listed
    have there : (Caller.user user,row) ∈ found svc w (.destroySession user sessions) :=
      List.mem_map.mpr ⟨row,List.mem_filter.mpr ⟨stored,by simpa using listed⟩,rfl⟩
    exact owned _ there
  | deleteSessionBySessionId sessionId userId =>
    cases userId with
    | some id => trivial
    | none =>
      intro row stored same
      have there : (Caller.user none,row) ∈ found svc w (.deleteSessionBySessionId sessionId none) :=
        List.mem_map.mpr ⟨row,List.mem_filter.mpr ⟨stored,by simpa using same⟩,rfl⟩
      exact absurd (owned _ there) (by rintro ⟨⟩)
  | _ => trivial

theorem asked_of_issues {input : Input} (issues : Issues svc input c) : Asked svc c := by
  cases c with
  | deleteSession refreshToken sessionId =>
    cases sessionId with
    | none => trivial
    | some id => exact issues.2
  | _ => trivial

variable (svc) in
/-- Rightful steps leave owned changes. -/
def contract : Contract (Cmd svc) World (Choice svc) Env where
  inv w := ∀ e ∈ w.changes, Owned svc e
  rely _ _ _ := True
  idle _ _ := True
  allowed _ c choice w := choice.fails = false → Rightful svc w c
  happens _ _ := True

theorem handle_changes {answer : Except Failure (Ret svc c)}
    (handled : handle svc process c choice w = some (after,answer)) :
    after.changes = (if choice.fails = true then [] else found svc w c) ++ w.changes := by
  unfold handle at handled
  by_cases fails : choice.fails = true
  · simp only [fails,if_true] at handled ⊢
    cases handled
    rfl
  · simp only [fails] at handled ⊢
    obtain ⟨⟨before,reply⟩,carried,rest⟩ := Option.map_eq_some_iff.mp handled
    cases rest
    exact (carry_changes carried : before.changes = _)

theorem environment_changes {event : Env} (happened : environment event w = some after) : after.changes = w.changes := by
  cases event with
  | elapse milliseconds => cases happened; rfl
  | purge started fails =>
    obtain ⟨purge,-,rfl⟩ := Option.map_eq_some_iff.mp happened
    cases fails <;> rfl

variable {served : Input → Bool}
theorem keeps : Keeps (sys svc served) (contract svc) fun _ _ _ => True where
  reflexive _ _ := trivial
  transitive _ _ _ _ _ _ := trivial
  stable _ _ _ _ _ _ _ := trivial
  idles _ _ _ _ _ _ := trivial
  arrives process input a b inv _ arrived := by
    obtain ⟨-,same⟩ := Option.ite_none_right_eq_some.mp arrived
    obtain rfl := Option.some.inj same
    refine ⟨inv,fun _ _ => trivial,wp_each (fun _ _ _ _ _ => trivial) ?_ (issues_program input) trivial⟩
    intro command issues before choice after answer owned _ allowed handled
    refine ⟨?_,fun _ _ => trivial,trivial⟩
    intro e there
    rw [handle_changes handled] at there
    by_cases fails : choice.fails = true
    · rw [if_pos fails] at there
      exact owned e there
    · rw [if_neg fails] at there
      rcases List.mem_append.mp there with new | old
      · exact owned_of_rightful (asked_of_issues issues) (allowed (by simpa using fails)) e new
      · exact owned e old
  moves event a b inv _ happened := by
    obtain ⟨after,moved,rfl⟩ := Option.map_eq_some_iff.mp happened
    refine ⟨fun e there => inv e ?_,fun _ => trivial⟩
    change e ∈ after.changes at there
    rwa [environment_changes moved] at there

theorem proper_iff (m : Machine (Cmd svc) (Ret svc) Failure Response World) (a : Action (Choice svc) Input Env) :
    Considered (contract svc) m a ↔ Proper svc m a := by
  cases a with
  | start process input => exact Iff.rfl
  | advance process choice => exact Iff.rfl
  | crash process => exact Iff.rfl
  | environment event => exact Iff.rfl

theorem spoils {m next : Machine (Cmd svc) (Ret svc) Failure Response World} {a : Action (Choice svc) Input Env}
    (taken : step (sys svc served) m a = some next) (improper : ¬Considered (contract svc) m a) :
    ¬∀ e ∈ next.world.changes, Owned svc e := by
  intro owned
  refine improper ?_
  cases a with
  | start process input => trivial
  | crash process => trivial
  | environment event => trivial
  | advance process choice =>
    intro command resume at_ succeeds
    obtain ⟨command',resume',world,answer,at',handled,rfl⟩ := step_advance taken
    cases at_.symm.trans at'
    refine rightful_of_owned fun e there => owned e ?_
    change e ∈ world.changes
    rw [handle_changes handled,if_neg (by simp [succeeds])]
    exact List.mem_append_left _ there

/-- The sessions of a platform are changed by their owners only, exactly in the runs whose
    steps are all proper. -/
theorem owned_iff (svc : Services) (served : Input → Bool) (now : Nat) (sessions : List Session)
    {actions : List (Action (Choice svc) Input Env)} {m : Machine (Cmd svc) (Ret svc) Failure Response World}
    (reached : run (step (sys svc served)) (Machine.initial (.initial now sessions)) actions = some m) :
    (∀ first rest u, actions = first ++ rest →
        run (step (sys svc served)) (Machine.initial (.initial now sessions)) first = some u →
        ∀ e ∈ u.world.changes, Owned svc e) ↔
      Along (step (sys svc served)) (Proper svc) (Machine.initial (.initial now sessions)) actions := by
  have safe : Safe (sys svc served) (contract svc) (fun _ _ _ => True) (Machine.initial (.initial now sessions)) :=
    safe_initial (fun e there => by cases there) fun _ => trivial
  rw [exact_along keeps (G := fun u => ∀ e ∈ u.world.changes, Owned svc e) (fun u safe => safe.inv)
    (fun u a next _ taken improper => spoils taken improper) safe reached]
  exact ⟨along_mono fun u a => (proper_iff u a).mp,along_mono fun u a => (proper_iff u a).mpr⟩

end

def foreignSignout : List (Action (Choice realm) Input Env) :=
  [.start 0 (.request bobsPayload (.signout (some ["s1"]))),.advance 0 (answers bob noTokens),
    .advance 0 (answers bob noTokens)]

theorem owned_iff_foreignSignout :
    (∀ first rest u, foreignSignout = first ++ rest →
        run (step (sys realm fun _ => true)) (Machine.initial (.initial 0 [aliceSession])) first = some u →
        ∀ e ∈ u.world.changes, Owned realm e) ↔
      Along (step (sys realm fun _ => true)) (Proper realm) (Machine.initial (.initial 0 [aliceSession]))
        foreignSignout :=
  owned_iff realm (fun _ => true) 0 [aliceSession] rfl
/-- The session of the other user is gone. -/
theorem signout_foreign :
    ∃ m, run (step (sys realm fun _ => true)) (Machine.initial (.initial 0 [aliceSession])) foreignSignout = some m ∧
      m.world.sessions = [] ∧ m.world.changes = [(.user (some "bob"),aliceSession)] ∧
      ¬Owned realm (.user (some "bob"),aliceSession) := by
  refine ⟨_,rfl,rfl,rfl,?_⟩
  intro owned
  exact absurd (Option.some.inj owned) (by decide)

end Ngotag.SessionOwners
